import OrbitalMesh.Bridge.Admission
import OrbitalMesh.Perennial.Reservoirs

/-!
# Governance commits and the packet policy

`materialize_governance_commit` writes down what became of a run, and whether an
operator approved.  `evaluate_darkharness_packet_policy` decides from the same
export whether an approval is missing.  The commit denies where the evaluation
blocks or rejects; the policy lets a run act where the evaluation says `execute`.
-/

namespace OrbitalMesh.Governance

/-- `value["key"]`. -/
def item (value : Json) (key : String) : Except PyError Json :=
  match value with
  | .obj members => ((Dict.get? members key).map .ok).getD (.error ⟨.keyError, pyRepr key⟩)
  | value => .error ⟨.typeError, "'" ++ typeName value ++ "' object is not subscriptable"⟩

/-- The dictionary that `.get` is called on. -/
def attributes : Json → Except PyError Dict
  | .obj members => .ok members
  | value => .error ⟨.exception, "'" ++ typeName value ++ "' object has no attribute 'get'"⟩

variable (d runExport : Dict) (actionRecords : List Dict) (key : String) (actionRecord : Dict)

/-- `d.get(key) or {}`. -/
def orEmpty : Json := orElse (d.get? key) (.obj [])

/-- `d.get(key)`, with a null for what is missing. -/
def getOrNull : Json := (d.get? key).getD .null

/-- `_record(d.get(key))`. -/
def recordAt : Dict := ((d.get? key).bind Json.asObj?).getD []

def stringList : Json → List String
  | .null => []
  | .arr items => (items.filter (· != .null)).map pyStr
  | value => [pyStr value]

def approvalRef (approval : Dict) : Option String :=
  let ref := orElse (approval.get? "authority_ref") (getOrNull approval "ref")
  let id := orElse (approval.get? "event_id") (getOrNull approval "approval_id")
  if truthy ref then some (pyStr ref)
  else if truthy id then some ("operator-approval://" ++ pyStr id)
  else none

/-- `_approval_refs`; `dict.fromkeys` keeps the first of equal references. -/
def approvalRefs : Option Json → List String
  | some (.arr records) => ((records.filterMap Json.asObj?).filterMap approvalRef).eraseDups
  | _ => []

def artifactRef (session : Dict) (key : String) : Json :=
  match getOrNull (recordAt session "artifacts") key with
  | .null => .null
  | .obj value => .str (pyStr (orElse (Dict.get? value "uri")
      (orElse (Dict.get? value "path") (.str ("artifact://" ++ key)))))
  | _ => .str ("artifact://" ++ key)

/-- `add(ref)`. -/
def added (ref : Json) : List String := if truthy ref then [pyStr ref] else []

/-- `_run_export_evidence_refs`, with what `mesh_brain_evidence_refs` finds in a session. -/
def runExportEvidenceRefs (meshBrainEvidenceRefs : Dict → List String) (runExport : Dict) :
    List String :=
  let session := recordAt runExport "session"
  let artifacts := match runExport.get? "evidence_artifacts" with
    | some (.obj artifacts) => artifacts.map fun artifact => "artifact://" ++ artifact.1
    | some (.arr artifacts) => (artifacts.filterMap Json.asObj?).flatMap fun artifact =>
        added (orElse (artifact.get? "artifact_key")
          (orElse (artifact.get? "uri") (getOrNull artifact "path")))
    | _ => []
  let refs := artifacts ++
    ["remediation_safety", "trust_ladder", "integration_readiness"].flatMap
      (fun key => added (artifactRef session key)) ++
    meshBrainEvidenceRefs session ++
    added (getOrNull (recordAt (recordAt runExport "decision_record") "execution_plan")
      "rollback_plan") ++
    approvalRefs (runExport.get? "approval_records") ++
    (added (getOrNull runExport "export_id")).map ("run_export://" ++ ·)
  if refs.isEmpty then (added (getOrNull runExport "run_id")).map ("run://" ++ ·)
  else refs.eraseDups

def signatureRef (proofEnvelope : Dict) : Json :=
  let signature := recordAt (recordAt proofEnvelope "implemented_proofs") "signature"
  if signature.isEmpty then .null
  else .str ("signature://" ++ pyStr (getOrNull signature "key_id") ++ "/" ++
    pyStr (getOrNull signature "payload_sha256"))

def serviceOwnerRefs (ontologicalState : Dict) : Except PyError (List Json) :=
  match (ontologicalState.get? "entities").getD (.arr []) with
  | .arr entities => do
    let refs ← entities.mapM fun entity => do
      let members ← attributes entity
      if members.get? "entity_type" = some (.str "owner") then
        return [← item entity "entity_id"]
      return []
    return refs.flatten
  | value => .error ⟨.typeError, "'" ++ typeName value ++ "' object is not iterable"⟩

def textOrNull : Schema := { types := [.string, .null] }

def texts (minItems : Nat) : Schema := .listOf .text minItems

/-- `perennial/governance-commit.schema.json`. -/
def governanceCommitSchema : Schema :=
  let record (properties : List (String × Schema)) : Schema :=
    .record (properties.map Prod.fst) properties
  record
    [("contract", .textIn ["perennial.governance_commit.v1"]),
     ("governance_commit_id", .text), ("created_at", .text),
     ("commit_type", .textIn
       ["allow_action", "deny_action", "defer_action", "escalate", "export_attestation"]),
     ("subject", record [("run_id", .text), ("trigger_id", textOrNull),
       ("decision_id", textOrNull), ("evaluation_id", textOrNull),
       ("action_record_id", textOrNull)]),
     ("state_refs", record [("epistemic_state_id", .text), ("ontological_state_id", .text)]),
     ("inputs", record [("evidence_refs", texts 1), ("scenario_analysis_ref", textOrNull),
       ("policy_refs", texts 0), ("remediation_safety_ref", textOrNull),
       ("trust_ladder_ref", textOrNull), ("readiness_ref", textOrNull)]),
     ("authority", record [("operator_required", { types := [.boolean] }),
       ("operator_approval_refs", texts 0), ("service_owner_refs", texts 0)]),
     ("action", record [("action_type", textOrNull), ("target_ref", textOrNull),
       ("production_impact", .textIn ["none", "possible", "direct"]),
       ("rollback_ref", textOrNull)]),
     ("proof", record [("proof_envelope_id", .text), ("merkle_root", textOrNull),
       ("signature_ref", textOrNull)]),
     ("outcome", record [("gate_result", .textIn ["allowed", "denied", "deferred", "escalated"]),
       ("reasons", texts 1), ("expires_at", textOrNull)])]

def needsOperator (impact : Json) : Bool := [.str "possible", .str "direct"].contains impact

/-- `production_impact in {"possible", "direct"}`. -/
def operatorRequired : Json → Except PyError Bool
  | .arr _ => .error ⟨.typeError, "unhashable type: 'list'"⟩
  | .obj _ => .error ⟨.typeError, "unhashable type: 'dict'"⟩
  | impact => .ok (needsOperator impact)

variable (evaluation : Dict)

def blockingReasons : List String :=
  stringList (getOrNull evaluation "blocking_reasons")

/-- `gate_denied`, where the caller leaves it open. -/
def gateDenied : Bool :=
  !(blockingReasons evaluation).isEmpty ||
    evaluation.get? "final_recommendation" == some (.str "reject")

/-- `outcome.reasons`. -/
def commitReasons : List String :=
  if (blockingReasons evaluation).isEmpty then ["operator approval present", "policy checks passed"]
  else blockingReasons evaluation

/-- The other arguments of a commit. -/
structure CommitContext where
  epistemicState : Dict
  ontologicalState : Dict
  proofEnvelope : Dict
  readiness : Option Dict
  trustLadderRef : Option String
  meshBrainEvidenceRefs : Dict → List String
  /-- `timestamp()` -/
  now : String

/-- `action_plan.get("action") or action_record["action"]["action_type"]`. -/
def planned (actionPlan : Dict) (action : Json) : Except PyError Json :=
  if truthyAt actionPlan "action" then .ok (getOrNull actionPlan "action")
  else item action "action_type"

def textItems (texts : List String) : Json := .arr (texts.map .str)

/-- `run_id`. -/
def commitRunId : Except PyError Json :=
  if truthyAt runExport "run_id" then .ok (getOrNull runExport "run_id")
  else do
    let session ← attributes (orEmpty runExport "session")
    if truthyAt session "run_id" then .ok (getOrNull session "run_id")
    else item (← item (.obj actionRecord) "context") "run_id"

/-- `materialize_governance_commit`, with `denied=None`. -/
def materializeGovernanceCommit (sha : Sha256) (context : CommitContext)
    (runExport actionRecord : Dict) : Except PyError Dict := do
  let runId ← commitRunId runExport actionRecord
  let decision ← attributes (orEmpty runExport "decision_record")
  let actionPlan := recordAt decision "execution_plan"
  let action ← item (.obj actionRecord) "action"
  let impact ← item action "production_impact"
  let evaluation ← attributes (orEmpty runExport "evaluation_record")
  let denied := gateDenied evaluation
  let epistemicId ← item (.obj context.epistemicState) "epistemic_state_id"
  let ontologicalId ← item (.obj context.ontologicalState) "ontological_state_id"
  let session ← attributes (orEmpty runExport "session")
  let policyRefs ← item (← item (.obj actionRecord) "governance") "policy_refs"
  let required ← operatorRequired impact
  let owners ← serviceOwnerRefs context.ontologicalState
  let actionType ← planned actionPlan action
  let target ← attributes (← item action "target")
  let outcome ← attributes (← item (.obj actionRecord) "outcome")
  let envelopeId ← item (.obj context.proofEnvelope) "proof_envelope_id"
  let proofs ← item (.obj context.proofEnvelope) "implemented_proofs"
  let root ← item (← item proofs "merkle") "root_hash"
  let commit : Dict :=
    [("contract", .str "perennial.governance_commit.v1"),
     ("governance_commit_id", .str (Reservoirs.stableId sha "gc"
       [runId, getOrNull decision "decision_id", .str (if denied then "denied" else "allowed")])),
     ("created_at", orElse (runExport.get? "generated_at") (.str context.now)),
     ("commit_type", .str (if denied then "deny_action" else "allow_action")),
     ("subject", .obj
       [("run_id", runId), ("trigger_id", getOrNull decision "trigger_id"),
        ("decision_id", getOrNull decision "decision_id"),
        ("evaluation_id", getOrNull evaluation "evaluation_id"),
        ("action_record_id", getOrNull actionRecord "action_record_id")]),
     ("state_refs", .obj
       [("epistemic_state_id", epistemicId), ("ontological_state_id", ontologicalId)]),
     ("inputs", .obj
       [("evidence_refs", textItems (runExportEvidenceRefs context.meshBrainEvidenceRefs
          runExport)),
        ("scenario_analysis_ref", artifactRef session "scenario_analysis"),
        ("policy_refs", orElse (some policyRefs)
          (textItems ["policy://darkharness/pilot/approval-required"])),
        ("remediation_safety_ref", artifactRef session "remediation_safety"),
        ("trust_ladder_ref", (context.trustLadderRef.map .str).getD .null),
        ("readiness_ref", if (context.readiness.getD []).isEmpty then .null
          else .str "readiness://pilot/go")]),
     ("authority", .obj
       [("operator_required", .bool required),
        ("operator_approval_refs", textItems (approvalRefs (runExport.get? "approval_records"))),
        ("service_owner_refs", .arr owners)]),
     ("action", .obj
       [("action_type", actionType), ("target_ref", getOrNull target "resource_ref"),
        ("production_impact", impact), ("rollback_ref", getOrNull outcome "rollback_ref")]),
     ("proof", .obj
       [("proof_envelope_id", envelopeId), ("merkle_root", root),
        ("signature_ref", signatureRef context.proofEnvelope)]),
     ("outcome", .obj
       [("gate_result", .str (if denied then "denied" else "allowed")),
        ("reasons", textItems (commitReasons evaluation)), ("expires_at", .null)])]
  validatePayload governanceCommitSchema (.obj commit)
  return commit

def maxProductionImpact : String :=
  let rank (impact : String) : Nat :=
    if impact = "direct" then 2 else if impact = "possible" then 1 else 0
  actionRecords.foldl (fun selected record =>
    let action := recordAt record "action"
    let impact := pyStr (orElse (action.get? "production_impact") (.str "none"))
    if rank selected < rank impact then impact else selected) "none"

def isAllowed : Bool :=
  let evaluation := recordAt runExport "evaluation_record"
  evaluation.get? "final_recommendation" == some (.str "execute") &&
    !truthyAt evaluation "blocking_reasons"

def productionActionHasOperatorApproval : Bool :=
  if !isAllowed runExport then true
  else if !(["possible", "direct"].contains (maxProductionImpact actionRecords)) then true
  else truthyAt runExport "approval_records"

def itemsAt : List Json :=
  match d.get? key with
  | some (.arr items) => items
  | _ => []

/-- It allows what needs the operator only with an approval that the evaluation says so of, it
speaks only of a recorded approval, and it allows what the policy allows. -/
def TellsTruth (runExport actionRecord commit : Dict) : Prop :=
  let allows := getOrNull commit "commit_type" = .str "allow_action"
  let authority := recordAt commit "authority"
  (allows → getOrNull authority "operator_required" = .bool true →
    isAllowed runExport = true ∧ itemsAt authority "operator_approval_refs" ≠ []) ∧
  (.str "operator approval present" ∈ itemsAt (recordAt commit "outcome") "reasons" →
    truthyAt runExport "approval_records" = true) ∧
  (allows ↔ isAllowed runExport = true ∧
    productionActionHasOperatorApproval runExport [actionRecord] = true)

def impactOf : Json := getOrNull (recordAt actionRecord "action")
  "production_impact"

/-- The evaluation blocks with reasons that the policy sees, or an approval is recorded; and no
reason speaks of an approval that is not. -/
def Candid : Prop :=
  let evaluation := recordAt runExport "evaluation_record"
  let recorded := truthyAt runExport "approval_records" = true
  let needed := needsOperator (impactOf actionRecord) = true
  if (blockingReasons evaluation).isEmpty then
    recorded ∧ (evaluation.get? "final_recommendation" = some (.str "reject") ∨
      isAllowed runExport = true ∧
        (needed → approvalRefs (runExport.get? "approval_records") ≠ []))
  else
    ("operator approval present" ∈ blockingReasons evaluation → recorded) ∧
      (isAllowed runExport = true → needed ∧ ¬ recorded)

instance (runExport actionRecord : Dict) : Decidable (Candid runExport actionRecord) := by
  unfold Candid
  infer_instance

theorem exists_of_isSome {α : Type} {x : Except PyError α} (h : x.toOption.isSome = true) :
    ∃ a, x = .ok a := by
  cases x with
  | error e => cases h
  | ok a => exact ⟨a, rfl⟩

section

variable {sha : Sha256} {context : CommitContext} {runExport actionRecord commit : Dict}
  {key : String}

theorem item_ok {value found : Json} (h : item value key = .ok found) :
    ∃ members : Dict, value = .obj members ∧ members.get? key = some found := by
  cases value with
  | obj members =>
    cases hget : Dict.get? members key with
    | none => simp [item, hget] at h
    | some other =>
      simp only [item, hget, Option.map_some, Option.getD_some, Except.ok.injEq] at h
      exact ⟨members, rfl, h ▸ hget⟩
  | _ => cases h

/-- A dictionary that was read with `or {}` is the record that the policy reads. -/
theorem recordAt_of_attributes {d members : Dict} (h : attributes (orEmpty d key) = .ok members) :
    recordAt d key = members := by
  unfold orEmpty orElse at h
  unfold recordAt
  cases hget : d.get? key with
  | none =>
    rw [hget] at h
    exact Except.ok.inj h
  | some found =>
    simp only [hget] at h
    split at h
    · cases found with
      | obj found => exact Except.ok.inj h
      | _ => cases h
    · next hfalsy =>
      cases h
      cases found with
      | obj found => simpa [truthy, Json.asObj?] using hfalsy
      | _ => rfl

theorem operatorRequired_ok {impact : Json} {required : Bool}
    (h : operatorRequired impact = .ok required) : required = needsOperator impact := by
  cases impact <;> grind [operatorRequired]

theorem materializeGovernanceCommit_spec
    (h : materializeGovernanceCommit sha context runExport actionRecord = .ok commit) :
    getOrNull commit "commit_type" =
        .str (if gateDenied (recordAt runExport "evaluation_record") then "deny_action"
          else "allow_action") ∧
      getOrNull (recordAt commit "authority") "operator_required" =
        .bool (needsOperator (impactOf actionRecord)) ∧
      itemsAt (recordAt commit "authority") "operator_approval_refs" =
        (approvalRefs (runExport.get? "approval_records")).map .str ∧
      itemsAt (recordAt commit "outcome") "reasons" =
        (commitReasons (recordAt runExport "evaluation_record")).map .str ∧
      ∃ text, impactOf actionRecord = .str text := by
  obtain ⟨runId, -, h⟩ := bind_ok h
  obtain ⟨decision, -, h⟩ := bind_ok h
  obtain ⟨action, haction, h⟩ := bind_ok h
  obtain ⟨impact, himpact, h⟩ := bind_ok h
  obtain ⟨evaluation, hevaluation, h⟩ := bind_ok h
  obtain ⟨epistemicId, -, h⟩ := bind_ok h
  obtain ⟨ontologicalId, -, h⟩ := bind_ok h
  obtain ⟨session, -, h⟩ := bind_ok h
  obtain ⟨governance, -, h⟩ := bind_ok h
  obtain ⟨policyRefs, -, h⟩ := bind_ok h
  obtain ⟨required, hrequired, h⟩ := bind_ok h
  obtain ⟨owners, -, h⟩ := bind_ok h
  obtain ⟨actionType, -, h⟩ := bind_ok h
  obtain ⟨place, -, h⟩ := bind_ok h
  obtain ⟨target, -, h⟩ := bind_ok h
  obtain ⟨ended, -, h⟩ := bind_ok h
  obtain ⟨outcome, -, h⟩ := bind_ok h
  obtain ⟨envelopeId, -, h⟩ := bind_ok h
  obtain ⟨proofs, -, h⟩ := bind_ok h
  obtain ⟨merkle, -, h⟩ := bind_ok h
  obtain ⟨root, -, h⟩ := bind_ok h
  obtain ⟨_, hvalid, h⟩ := bind_ok h
  obtain rfl := Except.ok.inj h
  obtain ⟨members, hmembers, hfound⟩ := item_ok haction
  obtain ⟨plan, rfl, hplan⟩ := item_ok himpact
  obtain rfl := Json.obj.inj hmembers
  have hread : impactOf actionRecord = impact := by
    simp [impactOf, recordAt, getOrNull, hfound, hplan, Json.asObj?]
  have haction := @validateNode_member _ _ _ _ "action" hvalid rfl _ rfl rfl
  have hwritten := @validateNode_member impact _ _ _ "production_impact" haction rfl _ rfl rfl
  rw [hread, recordAt_of_attributes hevaluation]
  refine ⟨rfl, congrArg Json.bool (operatorRequired_ok hrequired), rfl, rfl, ?_⟩
  have htype := validateNode_type hwritten rfl
  cases impact with
  | str text => exact ⟨text, rfl⟩
  | _ => cases htype

theorem policy_needs_iff {text : String} (h : impactOf actionRecord = .str text) :
    ["possible", "direct"].contains (maxProductionImpact [actionRecord]) =
      needsOperator (impactOf actionRecord) := by
  have hget : (recordAt actionRecord "action").get? "production_impact" = some (.str text) := by
    unfold impactOf getOrNull at h
    cases hfound : (recordAt actionRecord "action").get? "production_impact" with
    | none => rw [hfound] at h; cases h
    | some found => rw [hfound] at h; rw [← h]; rfl
  rw [h]
  simp only [maxProductionImpact, List.foldl_cons, List.foldl_nil, hget, orElse, truthy, pyStr,
    needsOperator]
  by_cases hdirect : text = "direct"
  · subst hdirect; decide
  · by_cases hpossible : text = "possible"
    · subst hpossible; decide
    · by_cases hempty : text = "" <;> simp [hempty, hdirect, hpossible]

end

/-- **Commits and approval.**  A commit tells the truth exactly for a candid export. -/
theorem commit_tells_truth_iff {sha : Sha256} {context : CommitContext}
    {runExport actionRecord commit : Dict}
    (h : materializeGovernanceCommit sha context runExport actionRecord = .ok commit) :
    TellsTruth runExport actionRecord commit ↔ Candid runExport actionRecord := by
  obtain ⟨htype, hrequired, hrefs, hreasons, text, htext⟩ := materializeGovernanceCommit_spec h
  have hallow : getOrNull commit "commit_type" = .str "allow_action" ↔
      gateDenied (recordAt runExport "evaluation_record") = false := by
    rw [htype]
    cases gateDenied (recordAt runExport "evaluation_record") <;> decide
  have hpolicy : productionActionHasOperatorApproval runExport [actionRecord] = true ↔
      (isAllowed runExport = true → needsOperator (impactOf actionRecord) = true →
        truthyAt runExport "approval_records" = true) := by
    unfold productionActionHasOperatorApproval
    rw [policy_needs_iff htext]
    grind
  have hdenied : gateDenied (recordAt runExport "evaluation_record") = false ↔
      blockingReasons (recordAt runExport "evaluation_record") = [] ∧
        (recordAt runExport "evaluation_record").get? "final_recommendation" ≠
          some (.str "reject") := by
    simp [gateDenied]
  have hexecute : isAllowed runExport = true →
      (recordAt runExport "evaluation_record").get? "final_recommendation" =
        some (.str "execute") := by
    simp only [isAllowed, Bool.and_eq_true, beq_iff_eq]
    exact And.left
  simp only [TellsTruth, Candid, hallow, hrequired, hrefs, hreasons, hpolicy, hdenied,
    commitReasons, Json.bool.injEq, ne_eq, List.map_eq_nil_iff, List.mem_map, Json.str.injEq,
    exists_eq_right]
  generalize (recordAt runExport "evaluation_record").get? "final_recommendation" = final
    at hexecute ⊢
  generalize blockingReasons (recordAt runExport "evaluation_record") = blocking
  cases blocking with
  | nil =>
    by_cases hreject : final = some (.str "reject") <;> grind
  | cons first rest => grind

def restartRecord : Dict :=
  [("action_record_id", .str "aar_1"),
   ("action", .obj [("action_type", .str "restart"), ("production_impact", .str "direct"),
     ("target", .obj [])]),
   ("governance", .obj [("policy_refs", .arr [])]), ("outcome", .obj [])]

def restartExport (recommendation : String) (approvals : List Json) : Dict :=
  [("run_id", .str "run_1"), ("generated_at", .str "2026-01-01T00:00:00Z"),
   ("evaluation_record", .obj [("final_recommendation", .str recommendation)]),
   ("approval_records", .arr approvals)]

def restartContext : CommitContext where
  epistemicState := [("epistemic_state_id", .str "es_1")]
  ontologicalState := [("ontological_state_id", .str "os_1")]
  proofEnvelope := [("proof_envelope_id", .str "pe_1"),
    ("implemented_proofs", .obj [("merkle", .obj [("root_hash", .null)])])]
  readiness := none
  trustLadderRef := none
  meshBrainEvidenceRefs _ := []
  now := ""

theorem commit_tells_truth_approved :
    ∃ commit, materializeGovernanceCommit checksumHash restartContext
        (restartExport "execute" [.obj [("event_id", .str "evt_1")]]) restartRecord = .ok commit ∧
      TellsTruth (restartExport "execute" [.obj [("event_id", .str "evt_1")]]) restartRecord
        commit := by
  obtain ⟨commit, hcommit⟩ : ∃ commit, materializeGovernanceCommit checksumHash restartContext
      (restartExport "execute" [.obj [("event_id", .str "evt_1")]]) restartRecord = .ok commit :=
    exists_of_isSome (by decide +kernel)
  exact ⟨commit, hcommit, (commit_tells_truth_iff hcommit).mpr (by decide +kernel)⟩

/-- A run that is to be deferred, without an approval: the commit allows the action. -/
theorem deferred_run_is_allowed :
    ¬ ∀ (sha : Sha256) (context : CommitContext) (runExport actionRecord commit : Dict),
      materializeGovernanceCommit sha context runExport actionRecord = .ok commit →
      TellsTruth runExport actionRecord commit := by
  intro hclaim
  obtain ⟨commit, hcommit⟩ : ∃ commit, materializeGovernanceCommit checksumHash restartContext
      (restartExport "defer" []) restartRecord = .ok commit :=
    exists_of_isSome (by decide +kernel)
  have htells := hclaim _ _ _ _ _ hcommit
  obtain ⟨htype, -⟩ := materializeGovernanceCommit_spec hcommit
  have hallowed := (htells.2.2.mp (htype.trans (by decide +kernel))).1
  exact absurd hallowed (by decide +kernel)

end OrbitalMesh.Governance
