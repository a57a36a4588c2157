import OrbitalMesh.Base.Dictionaries
import OrbitalMesh.Bridge.Admission

/-!
# The autonomy policy

`autonomy_policy.py` judges a decision before it is executed.  What it judges is a scope and a
connector: the ones the caller names, else the ones the decision names among its parameters or
in its reasoning, else the ones of the action and the system in its plan.
-/

namespace OrbitalMesh.Evaluation

inductive AutonomyPolicyTier where
  | fullyAutonomous
  | approvalRequired
  | advisoryOnly
  | deniedAlways
deriving DecidableEq

def advisoryScopes : List String :=
  ["contract-check", "eval-read", "explain", "local-audit", "metrics-read",
   "orchestration-evidence", "proposal", "read-only", "review"]

def mutatingScopes : List String :=
  ["alert-intake", "append-only-audit-write", "incident-write", "patch", "rollback",
   "rollout-restart", "scale", "write"]

def targetMinimumState : List (String × String) :=
  [("local", "staging-ready"),
   ("staging", "staging-ready"),
   ("pilot", "pilot-ready"),
   ("production", "production-ready"),
   ("prod", "production-ready"),
   ("expansion", "production-ready")]

def systemConnector : List (String × String) :=
  [("audit_log_sink", "audit_sink"),
   ("feature_flag_service", "feature_flag_adapter"),
   ("incident_service", "incident_adapter"),
   ("kubernetes_service", "kubernetes"),
   ("repo_patch_service", "codex"),
   ("systemd_service", "systemd_service")]

def actionScope : List (String × String) :=
  [("investigate_and_patch", "proposal"),
   ("open_incident", "incident-write"),
   ("patch_resources", "patch"),
   ("record_defer_until", "local-audit"),
   ("record_no_action", "local-audit"),
   ("restart_deployment", "rollout-restart"),
   ("restart_pod", "rollout-restart"),
   ("restart_systemd_service", "restart-service"),
   ("rollback_deployment", "rollback"),
   ("scale_deployment", "scale"),
   ("set_rollout", "write")]

def stateOrder : List (String × Nat) :=
  [("disabled", 0), ("mock", 1), ("unfinished", 1), ("read-only", 2), ("proposal-only", 2),
   ("staging-ready", 3), ("pilot-ready", 4), ("production-ready", 5)]

/-- What the policy reads of a record of the certification registry. -/
structure CertifiedConnector where
  connectorId : String
  state : String
  allowedScopes : List String

/-- The arguments besides the decision.  There is no registry where none can be loaded; an
empty text or list is no argument. -/
structure PolicyCall where
  policyTier : Option AutonomyPolicyTier := none
  registry : Option (List CertifiedConnector) := none
  targetProfile : String := "pilot"
  connectorId : String := ""
  requestedScope : String := ""
  evidenceRefs : List String := []
  approvalObserved : Bool := false
  liveExecutionEnabled : Bool := false
  forceApprovalGate : Bool := false

structure AutonomyPolicyVerdict where
  policyTier : AutonomyPolicyTier
  allowed : Bool
  liveExecutionAllowed : Bool
  mockExecutionOnly : Bool
  connectorId : String
  connectorState : Option String
  requestedScope : String
  minimumState : String
  blockers : List String
  liveBlockers : List String
  evidenceRefs : List String
  approvalObserved : Bool

variable (d : ContractDecision)

def tierFromDecision : AutonomyPolicyTier :=
  if d.autonomyTier = "autonomous" then .fullyAutonomous
  else if d.autonomyTier = "approval_required" then .approvalRequired
  else .advisoryOnly

def statedAt (value : Option Json) (key : String) : Option String := do
  let members ← value.bind Json.asObj?
  let stated ← members.get? key
  if truthy stated then some (pyStr stated) else none

def executionOverride (key : String) : Option String :=
  (statedAt (d.executionPlan.get? "parameters") key).or
    (statedAt (d.reasoning.get? "connector_certification") key)

def ownConnector : String :=
  (systemConnector.lookup (textOrEmpty d.executionPlan "system")).getD "unknown"

def ownScope : String :=
  (actionScope.lookup (textOrEmpty d.executionPlan "action")).getD "unknown"

def overrideOr (key own : String) : String :=
  match executionOverride d key with
  | some override => if override = "" then own else override
  | none => own

def connectorId : String := overrideOr d "connector_id" (ownConnector d)

def requestedScope : String :=
  overrideOr d "requested_scope" (ownScope d)

def listedTexts : Option Json → List String
  | some (.arr items) => items.map pyStr
  | _ => []

def decisionEvidenceRefs : List String :=
  [d.decisionId] ++ listedTexts (d.reasoning.get? "source_event_ids") ++
    listedTexts (d.reasoning.get? "evidence_event_ids") ++
    ["artifact_ref", "proof_ref", "run_export_ref"].filterMap
      (statedAt (d.reasoning.get? "evidence_pack"))

def minimumState (targetProfile : String) : String :=
  (targetMinimumState.lookup targetProfile.toLower).getD "pilot-ready"

def stateAtLeast (observed minimum : String) : Bool :=
  (stateOrder.lookup minimum).getD 4 ≤ (stateOrder.lookup observed).getD 0

def scopeIsMutating (scope : String) : Bool :=
  mutatingScopes.contains scope || !advisoryScopes.contains scope

/-- The texts whose conditions hold, in order. -/
def listedWhere (findings : List (Bool × String)) : List String :=
  (findings.filter Prod.fst).map Prod.snd

def certificationBlockers (record : Option CertifiedConnector) (scope minimum : String) :
    List String :=
  listedWhere
    [(record.isNone, "connector_not_certified"),
     (record.any fun connector => !stateAtLeast connector.state minimum,
        "connector_state_below_target_minimum"),
     (!(record.any fun connector => connector.allowedScopes.contains scope),
        "scope_not_allowed_by_connector_certification")]

variable (call : PolicyCall)

def policyBlockers (tier : AutonomyPolicyTier) (scope : String)
    (refs : List String) : List String :=
  listedWhere
    [(tier == .deniedAlways, "autonomy_tier_denied_always"),
     (tier == .advisoryOnly && !advisoryScopes.contains scope,
        "advisory_only_scope_cannot_mutate"),
     (tier == .approvalRequired && !call.approvalObserved, "approval_required_before_execution"),
     (tier == .fullyAutonomous && call.forceApprovalGate, "approval_required_before_execution"),
     (scopeIsMutating scope && tier == .fullyAutonomous && refs.isEmpty,
        "evidence_required_before_execution")]

def judge (tier : AutonomyPolicyTier) (connector scope : String)
    (refs : List String) : AutonomyPolicyVerdict :=
  let minimum := minimumState call.targetProfile
  let record := (call.registry.getD []).find? fun record => record.connectorId == connector
  let certification := certificationBlockers record scope minimum
  let blockers := policyBlockers call tier scope refs ++
    if call.liveExecutionEnabled then certification else []
  let liveBlockers := blockers ++ certification ++
    if scopeIsMutating scope && !call.liveExecutionEnabled then ["live_execution_disabled"]
    else []
  let allowed := blockers.isEmpty
  let liveExecutionAllowed := allowed && liveBlockers.isEmpty
  { policyTier := tier
    allowed
    liveExecutionAllowed
    mockExecutionOnly := allowed && !liveExecutionAllowed
    connectorId := connector
    connectorState := record.map CertifiedConnector.state
    requestedScope := scope
    minimumState := minimum
    blockers := sortedSet blockers
    liveBlockers := sortedSet liveBlockers
    evidenceRefs := refs
    approvalObserved := call.approvalObserved }

/-- `policy_tier or _tier_from_decision(decision)`. -/
def PolicyCall.tier (d : ContractDecision) : AutonomyPolicyTier :=
  call.policyTier.getD (tierFromDecision d)

/-- The references that are not blank: the caller's, or the decision's where the caller gives
none. -/
def PolicyCall.refs (d : ContractDecision) : List String :=
  (if call.evidenceRefs.isEmpty then decisionEvidenceRefs d else call.evidenceRefs).filter
    fun ref => !isBlank ref

/-- `given or own`. -/
def givenOr (given own : String) : String := if given = "" then own else given

def evaluateAutonomyPolicy (d : ContractDecision) : AutonomyPolicyVerdict :=
  judge call (call.tier d) (givenOr call.connectorId (connectorId d))
    (givenOr call.requestedScope (requestedScope d)) (call.refs d)

theorem mem_listedWhere {text : String} {findings : List (Bool × String)} :
    text ∈ listedWhere findings ↔ (true, text) ∈ findings := by
  simp [listedWhere]

theorem scopeIsMutating_eq (scope : String) :
    scopeIsMutating scope = !advisoryScopes.contains scope := by
  by_cases h : advisoryScopes.contains scope = true
  · have hmem : scope ∈ advisoryScopes := by simpa using h
    have hnot : ∀ each ∈ advisoryScopes, mutatingScopes.contains each = false := by decide
    rw [scopeIsMutating, hnot scope hmem, h]
    rfl
  · rw [scopeIsMutating, Bool.eq_false_iff.mpr h]
    simp

section

variable {call : PolicyCall} {tier : AutonomyPolicyTier} {connector scope blocker : String}
  {refs : List String}

theorem mem_judge_blockers :
    blocker ∈ (judge call tier connector scope refs).blockers ↔
      blocker ∈ policyBlockers call tier scope refs ∨
        call.liveExecutionEnabled = true ∧
          blocker ∈ certificationBlockers
            ((call.registry.getD []).find? fun record => record.connectorId == connector) scope
            (minimumState call.targetProfile) := by
  cases hlive : call.liveExecutionEnabled <;> simp [judge, mem_sortedSet, hlive]

theorem not_allowed_of_mem (h : blocker ∈ (judge call tier connector scope refs).blockers) :
    (judge call tier connector scope refs).allowed = false := by
  rw [judge] at h ⊢
  simp only [mem_sortedSet] at h
  exact List.isEmpty_eq_false_iff_exists_mem.mpr ⟨blocker, h⟩

theorem evidence_mem_iff :
    "evidence_required_before_execution" ∈ (judge call tier connector scope refs).blockers ↔
      scopeIsMutating scope = true ∧ tier = .fullyAutonomous ∧ refs = [] := by
  rw [mem_judge_blockers]
  simp [policyBlockers, certificationBlockers, mem_listedWhere, and_assoc]

theorem advisory_mem_iff :
    "advisory_only_scope_cannot_mutate" ∈ (judge call tier connector scope refs).blockers ↔
      tier = .advisoryOnly ∧ scopeIsMutating scope = true := by
  rw [mem_judge_blockers, scopeIsMutating_eq]
  simp [policyBlockers, certificationBlockers, mem_listedWhere]

/-- The references bear on one blocker alone. -/
theorem judge_blockers_congr (refs' : List String)
    (h : blocker ≠ "evidence_required_before_execution") :
    blocker ∈ (judge call tier connector scope refs).blockers ↔
      blocker ∈ (judge call tier connector scope refs').blockers := by
  rw [mem_judge_blockers, mem_judge_blockers]
  simp [policyBlockers, mem_listedWhere, h]

end

/-- The two decisions differ in the parameters of their plans and in their reasoning alone. -/
structure AlikeElsewhere (d d' : ContractDecision) : Prop where
  rest : { d with reasoning := d'.reasoning, executionPlan := d'.executionPlan } = d'
  plan : Dict.AgreeOff ["parameters"] d.executionPlan d'.executionPlan

/-- The verdict is about the scope of the action, holds an advisory mutation back, and asks for
other evidence. -/
structure JudgedAsPlanned (d : ContractDecision) : Prop where
  scope : (evaluateAutonomyPolicy call d).requestedScope = ownScope d
  connector : (evaluateAutonomyPolicy call d).connectorId = ownConnector d
  advised : scopeIsMutating (ownScope d) = true → call.tier d = .advisoryOnly →
    (evaluateAutonomyPolicy call d).allowed = false
  evidenced : scopeIsMutating (ownScope d) = true → call.tier d = .fullyAutonomous →
    (∀ ref ∈ call.refs d, ref = d.decisionId) →
    "evidence_required_before_execution" ∈ (evaluateAutonomyPolicy call d).blockers

/-- Both verdicts are about the plan, and what a decision says besides its plan bears on no
blocker but the one about evidence. -/
structure Unswayed (d d' : ContractDecision) : Prop where
  first : JudgedAsPlanned call d
  second : JudgedAsPlanned call d'
  alike : ∀ blocker, blocker ≠ "evidence_required_before_execution" →
    (blocker ∈ (evaluateAutonomyPolicy call d).blockers ↔
      blocker ∈ (evaluateAutonomyPolicy call d').blockers)

def named (given : String) (d : ContractDecision) (key : String) : Option String :=
  if given = "" then (executionOverride d key).filter fun override => override != "" else some given

/-- Nothing but the plan's own scope and connector is named, and the decision is not the only
evidence for an autonomous mutation. -/
structure PlainTerms (d : ContractDecision) : Prop where
  scope : ∀ scope, named call.requestedScope d "requested_scope" = some scope →
    scope = ownScope d
  connector : ∀ connector, named call.connectorId d "connector_id" = some connector →
    connector = ownConnector d
  evidence : ¬ (scopeIsMutating (ownScope d) = true ∧ call.tier d = .fullyAutonomous ∧
    call.refs d ≠ [] ∧ ∀ ref ∈ call.refs d, ref = d.decisionId)

theorem givenOr_overrideOr (given : String) (d : ContractDecision) (key own : String) :
    givenOr given (overrideOr d key own) = (named given d key).getD own := by
  unfold givenOr named
  split
  · cases h : executionOverride d key with
    | none => simp [overrideOr, h]
    | some override =>
      by_cases hempty : override = "" <;> simp [overrideOr, h, hempty, Option.filter]
  · rfl

theorem getD_eq_own_iff {own : String} {found : Option String} :
    found.getD own = own ↔ ∀ value, found = some value → value = own := by
  cases found <;> simp

theorem evaluate_scope (d : ContractDecision) :
    (evaluateAutonomyPolicy call d).requestedScope =
      (named call.requestedScope d "requested_scope").getD (ownScope d) :=
  givenOr_overrideOr call.requestedScope d "requested_scope" (ownScope d)

theorem evaluate_connector (d : ContractDecision) :
    (evaluateAutonomyPolicy call d).connectorId =
      (named call.connectorId d "connector_id").getD (ownConnector d) :=
  givenOr_overrideOr call.connectorId d "connector_id" (ownConnector d)

theorem PlainTerms.evaluate {call : PolicyCall} {d : ContractDecision} (h : PlainTerms call d) :
    evaluateAutonomyPolicy call d =
      judge call (call.tier d) (ownConnector d) (ownScope d) (call.refs d) := by
  have hscope : givenOr call.requestedScope (requestedScope d) = ownScope d :=
    (evaluate_scope call d).trans (getD_eq_own_iff.mpr h.scope)
  have hconnector : givenOr call.connectorId (connectorId d) = ownConnector d :=
    (evaluate_connector call d).trans (getD_eq_own_iff.mpr h.connector)
  rw [evaluateAutonomyPolicy, hscope, hconnector]

theorem judgedAsPlanned_iff (d : ContractDecision) :
    JudgedAsPlanned call d ↔ PlainTerms call d := by
  constructor
  · intro h
    refine ⟨?_, ?_, ?_⟩
    · apply getD_eq_own_iff.mp
      rw [← evaluate_scope]
      exact h.scope
    · apply getD_eq_own_iff.mp
      rw [← evaluate_connector]
      exact h.connector
    · intro ⟨hmutating, htier, hrefs, hown⟩
      exact hrefs (evidence_mem_iff.mp (h.evidenced hmutating htier hown)).2.2
  · intro h
    refine ⟨?_, ?_, ?_, ?_⟩
    · rw [h.evaluate]
      rfl
    · rw [h.evaluate]
      rfl
    · intro hmutating htier
      rw [h.evaluate]
      exact not_allowed_of_mem (advisory_mem_iff.mpr ⟨htier, hmutating⟩)
    · intro hmutating htier hown
      rw [h.evaluate]
      apply evidence_mem_iff.mpr
      refine ⟨hmutating, htier, ?_⟩
      by_contra hrefs
      exact h.evidence ⟨hmutating, htier, hrefs, hown⟩

section

variable {d d' : ContractDecision} (h : AlikeElsewhere d d')
include h

theorem AlikeElsewhere.ownScope : ownScope d = ownScope d' := by
  unfold Evaluation.ownScope textOrEmpty
  rw [h.plan "action" (by decide)]

theorem AlikeElsewhere.ownConnector : ownConnector d = ownConnector d' := by
  unfold Evaluation.ownConnector textOrEmpty
  rw [h.plan "system" (by decide)]

theorem AlikeElsewhere.tier (call : PolicyCall) : call.tier d = call.tier d' := by
  rw [← h.rest]
  rfl

end

/-- **When a decision does not sway its verdict**: where it does not name another scope. -/
theorem unswayed_iff {d d' : ContractDecision} (h : AlikeElsewhere d d') :
    Unswayed call d d' ↔ PlainTerms call d ∧ PlainTerms call d' := by
  constructor
  · intro hunswayed
    exact ⟨(judgedAsPlanned_iff call d).mp hunswayed.first,
      (judgedAsPlanned_iff call d').mp hunswayed.second⟩
  · intro ⟨hplain, hplain'⟩
    refine ⟨(judgedAsPlanned_iff call d).mpr hplain, (judgedAsPlanned_iff call d').mpr hplain', ?_⟩
    intro blocker hne
    rw [hplain.evaluate, hplain'.evaluate, h.tier call, h.ownScope, h.ownConnector]
    exact judge_blockers_congr (call.refs d') hne

def rollbackOf (autonomyTier : String) (parameters reasoning : Dict) : ContractDecision where
  decisionId := "dec_rollback"
  triggerId := "trig"
  summary := "roll back"
  decisionType := "rollback_deployment"
  autonomyTier := autonomyTier
  reasoning := reasoning
  expectedOutcome := []
  risk := []
  confidence := .int 1
  executionPlan :=
    [("system", .str "kubernetes_service"), ("action", .str "rollback_deployment"),
     ("parameters", .obj parameters)]

theorem rollbackOf_alike (autonomyTier : String)
    (parameters parameters' reasoning reasoning' : Dict) :
    AlikeElsewhere (rollbackOf autonomyTier parameters reasoning)
      (rollbackOf autonomyTier parameters' reasoning') := by
  refine ⟨rfl, ?_⟩
  intro key hkey
  have hne : key ≠ "parameters" := by simpa using hkey
  simp [rollbackOf, Dict.get?_cons, hne]

def citing : Dict := [("source_event_ids", .arr [.str "evt"])]

theorem citing_unswayed :
    AlikeElsewhere (rollbackOf "autonomous" [] citing)
        (rollbackOf "autonomous" [("revision", .int 3)] citing) ∧
      Unswayed {} (rollbackOf "autonomous" [] citing)
        (rollbackOf "autonomous" [("revision", .int 3)] citing) := by
  refine ⟨rollbackOf_alike _ _ _ _ _, (unswayed_iff {} (rollbackOf_alike _ _ _ _ _)).mpr ?_⟩
  constructor
  · refine ⟨?_, ?_, ?_⟩ <;> decide
  · refine ⟨?_, ?_, ?_⟩ <;> decide

/-- A rollback that calls itself `read-only` is allowed as advice, and one that cites nothing
is its own evidence. -/
theorem decision_sways_verdict :
    (evaluateAutonomyPolicy { policyTier := some .advisoryOnly }
        (rollbackOf "autonomous" [("requested_scope", .str "read-only")] [])).allowed = true ∧
      scopeIsMutating (ownScope (rollbackOf "autonomous" [] [])) = true ∧
      (evaluateAutonomyPolicy {} (rollbackOf "autonomous" [] [])).evidenceRefs =
        ["dec_rollback"] ∧
      (evaluateAutonomyPolicy {} (rollbackOf "autonomous" [] [])).allowed = true ∧
      ¬ Unswayed {} (rollbackOf "autonomous" [] [])
        (rollbackOf "autonomous" [("requested_scope", .str "read-only")] []) := by
  refine ⟨by decide, by decide, by decide, by decide, ?_⟩
  intro h
  exact absurd h.second.scope (by decide)

end OrbitalMesh.Evaluation
