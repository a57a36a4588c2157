import OrbitalMesh.Decision.Trigger

/-!
# Which lanes a run may use, and with what authority

A rule of the organisation's profile asks for lanes, the mesh offers candidates, and an
operator may have configured a filter.  Each lane that is selected gets a record: the model
it is bound to, its authority, and what speaks against it.  Its authority rests on a
certification, which the registry of connectors gives and the readiness of the running
system corrects member by member.

A profile is validated when it is loaded, so it is modelled by a structure; what its schema
leaves free stays a dictionary.
-/

namespace OrbitalMesh.Topology

open OrbitalMesh.Decision

/-- `TOPOLOGY_MODES`. -/
inductive Mode where
  | centralized
  | hierarchical
  | decentralized
  | federated
  | hybrid
deriving DecidableEq

/-- One of `rules`.  A member that the rule leaves out is empty, and a flag is set. -/
structure Rule where
  ruleId : String
  topology : Mode
  conditions : List (String × List String) := []
  requiredAgents : List String := []
  lanes : List String := []
  preferredAgents : List String := []
  fallbackAgents : List String := []
  laneOverrides : Dict := []
  modelBindings : Dict := []
  riskPolicy : Dict := []
  blockers : List String := []
  reconciliation : String := ""
  dataBoundaryRequired : Bool := true
  credentialBoundaryRequired : Bool := true

/-- `model_provider_policy`. -/
structure ModelProviderPolicy where
  allowedProviders : List String
  allowedModels : List Dict
  laneDefaults : Dict

/-- What the resolution reads of a profile. -/
structure Profile where
  defaultTopology : Mode
  modelProviderPolicy : ModelProviderPolicy
  rules : List Rule

/-- The member of a rule's `match`, with the member of the context that it is held against. -/
def checks : List (String × String) :=
  [("services", "service"),
    ("action_classes", "action_class"),
    ("allowed_model_providers", "allowed_model_providers"),
    ("autonomy_tiers", "autonomy_tier"),
    ("data_boundaries", "data_boundaries"),
    ("deployment_substrates", "deployment_substrate"),
    ("environments", "environment"),
    ("model_ids", "allowed_model_ids"),
    ("namespaces", "namespace"),
    ("org_domains", "org_domain"),
    ("risk_tiers", "risk_tier"),
    ("signal_sources", "signal_source"),
    ("teams", "team_ids"),
    ("tenant_ids", "tenant_id"),
    ("trust_levels", "trust_level")]

def valueMatchesAny (value : Json) (options : List String) : Bool :=
  match value with
  | .arr items => items.any fun item => options.contains (pyStr item)
  | value => options.contains (pyStr value)

/-- `_matches`. -/
def matchesContext (conditions : List (String × List String)) (context : Dict) : Bool :=
  checks.all fun check =>
    let options := (conditions.lookup check.1).getD []
    options.isEmpty || valueMatchesAny (getOr context check.2 .null) options

def matchingRule (profile : Profile) (context : Dict) : Rule :=
  (profile.rules.find? fun rule => matchesContext rule.conditions context).getD
    { ruleId := "default", topology := profile.defaultTopology }

def requestedRuleLanes (rule : Rule) : List String :=
  (rule.requiredAgents ++ rule.lanes ++ rule.preferredAgents ++ rule.fallbackAgents).foldl
    (fun lanes lane => if lane ∈ lanes then lanes else lanes ++ [lane]) []

def filteredCandidates (candidates configuredFilter : List String) : List String :=
  if configuredFilter.isEmpty then candidates
  else candidates.filter fun lane => configuredFilter.contains lane

def selectLanes (rule : Rule) (candidates configuredFilter : List String) : List String :=
  let filtered := filteredCandidates candidates configuredFilter
  let requested := requestedRuleLanes rule
  if requested.isEmpty then filtered
  else
    let selected := requested.filter fun lane => filtered.contains lane
    if !selected.isEmpty then selected
    else if configuredFilter.isEmpty then requested
    else filtered

def laneSelectionBlockers (rule : Rule) (selected configuredFilter : List String) :
    List String :=
  let requested := requestedRuleLanes rule
  if requested.isEmpty || configuredFilter.isEmpty then []
  else if requested.all fun lane => !selected.contains lane then
    ["topology_rule_lanes_filtered_by_agent_mesh_agents"]
  else
    (sortedSet (requested.filter fun lane => !selected.contains lane)).map
      ("topology_lane_filtered:" ++ ·)

abbrev Certifications := String → Option Dict

/-- `AttributeError`, for reading a member of a value that has none. -/
def noMembers {α : Type} (value : Json) : Except PyError α :=
  .error ⟨.exception, "'" ++ typeName value ++ "' object has no attribute 'get'"⟩

/-- One round of the loop over the connectors of the registry. -/
def addConnector (connectors : Certifications) : Json → Except PyError Certifications
  | .obj item =>
    if truthyAt item "connector_id" then
      .ok (Function.update connectors (textOrEmpty item "connector_id") (some item))
    else .ok connectors
  | value => noMembers value

def registryConnectors (payload : Json) : Except PyError Certifications := do
  let items ← match payload with
    | .obj members => pyList (getOr members "connectors" (.arr []))
    | _ => .ok []
  items.foldlM addConnector fun _ => none

/-- One round of the loop over the connectors of the running system. -/
def correctConnector (connectors : Certifications) (entry : String × Json) : Certifications :=
  match connectors entry.1, entry.2 with
  | none, .obj item => Function.update connectors entry.1 (some item)
  | none, state =>
    Function.update connectors entry.1 (some [("state", .str (pyStr state))])
  | some cert, .obj item => Function.update connectors entry.1 (some (cert.update item))
  | some _, _ => connectors

/-- The connectors that the running system reports. -/
def runtimeConnectors (readinessSnapshot : Dict) : Dict :=
  match readinessSnapshot.get? "connector_certification" with
  | some (.obj entries) => entries
  | _ => []

def connectorCertifications (payload : Json) (readinessSnapshot : Dict) :
    Except PyError Certifications := do
  let connectors ← registryConnectors payload
  return (runtimeConnectors readinessSnapshot).foldl correctConnector connectors

/-- `str(d.get(key) or default)`. -/
def textOr (d : Dict) (key default : String) : String :=
  if textOrEmpty d key = "" then default else textOrEmpty d key

def laneRole (lane : String) : Mode → String
  | .centralized => "mesh_assigned_worker"
  | .hierarchical => if lane ∈ ["hermes", "temporal"] then "supervisor" else "worker"
  | .decentralized => "peer_proposal"
  | .federated => "federated_lane"
  | .hybrid => "hybrid_lane"

def topologyRole (lane : String) : Mode → String
  | .centralized => "mesh_assigned_worker"
  | .hierarchical =>
    if lane ∈ ["hermes", "temporal"] then "supervisor_lane" else "worker_evidence_lane"
  | .decentralized => "peer_proposal_lane"
  | .federated => "federated_tenant_lane"
  | .hybrid =>
    if lane = "temporal" then "supervisor_lane"
    else if lane = "kubernetes" then "bounded_actuator_lane"
    else if lane ∈ ["flyte", "dagster", "airflow", "prefect", "luigi", "oozie"] then
      "federated_or_peer_evidence_lane"
    else "peer_proposal_lane"

def defaultReconciliation : Mode → String
  | .centralized => "mesh_authoritative_single_decision"
  | .hierarchical => "mesh_reconciles_supervisor_and_worker_outputs"
  | .decentralized => "mesh_reconciles_parallel_peer_proposals"
  | .federated => "mesh_reconciles_with_tenant_data_and_credential_boundaries"
  | .hybrid => "mesh_reconciles_per_rule_topology_outputs"

def laneReconciliationMode (role reconciliation : String) : String :=
  if role = "bounded_actuator_lane" then "bounded_action_evidence"
  else if role = "supervisor_lane" then "supervisor_summary_before_mesh_reconciliation"
  else if role = "federated_tenant_lane" then
    "tenant_boundary_evidence_before_mesh_reconciliation"
  else if role = "peer_proposal_lane" then "parallel_proposal_before_mesh_reconciliation"
  else reconciliation

def laneAdapter (lane : String) : String :=
  if lane = "latentmas" then "latentmas_http"
  else if lane ∈ ["codex", "claudecode", "openclaw", "deepagents"] then
    "deepagents_or_native_contract"
  else if lane ∈ ["goose", "hermes"] then lane ++ "_bridge_or_native_contract"
  else if lane ∈ ["airflow", "temporal", "dagster", "prefect", "flyte", "luigi", "oozie",
      "kubernetes", "n8n"] then "native_orchestration_contract"
  else "native_contract"

def laneRuntimeMode (lane : String) : String :=
  if lane = "latentmas" then "sidecar_inference"
  else if lane ∈ ["codex", "claudecode", "openclaw", "deepagents"] then
    "sandboxed_proposal_fabric"
  else if lane ∈ ["goose", "hermes"] then "cli_or_native_proposal"
  else if lane = "kubernetes" then "bounded_actuator_when_certified"
  else "evidence_adapter"

/-- `os.getenv`. -/
abbrev Environment := String → Option String

/-- `os.getenv(n₁) or … or os.getenv(nₖ) or ""`. -/
def firstSet (env : Environment) : List String → String
  | [] => ""
  | name :: rest => match env name with
    | some text => if text = "" then firstSet env rest else text
    | none => firstSet env rest

/-- A model binding as a lane record shows it. -/
structure ModelBinding where
  supported : Bool
  bindingStatus : String
  provider : String
  model : String
  route : String
  configSource : String
  secretRefEnvs : List String
  credentialConfigured : Bool
  further : Dict := []

def modelBoundAgentWorkers : List String :=
  ["goose", "hermes", "codex", "claudecode", "openclaw", "deepagents", "latentmas"]

/-- `_nested_lane_binding`, where what it finds is not empty. -/
def nestedLaneBinding (bindings : Dict) (lane : String) : Option Dict :=
  match bindings.get? lane with
  | some (.obj []) => none
  | some (.obj binding) => some binding
  | _ => none

def laneOverride (rule : Rule) (lane : String) : Dict :=
  match rule.laneOverrides.get? lane with
  | some (.obj override) => override
  | _ => []

variable (env : Environment)

/-- `_openai_base_url_configured`, as the name of a provider. -/
def defaultProvider : String :=
  if pyStrip (firstSet env ["OPENAI_BASE_URL", "OPENAI_HOST"]) = "" then ""
  else "openai-compatible"

def openaiSecretRefs : List String := ["OPENAI_API_KEY", "MINIMAX_API_KEY"]

def openaiSecretConfigured : Bool :=
  pyStrip (firstSet env openaiSecretRefs) != ""

def bridgeBinding (providerName : String) (modelNames : List String)
    (route source : String) (fallback : Dict) : Option Dict :=
  let named := firstSet env [providerName]
  let provider := if named = "" then defaultProvider env else named
  let model := firstSet env modelNames
  if provider = "" ∧ model = "" then none
  else some ([("provider", .str (if provider = "" then "auto" else provider)),
    ("model", .str (if model = "" then "auto" else model)),
    ("route", .str route),
    ("config_source", .str source)] ++ fallback ++
    [("secret_ref_envs", .arr (openaiSecretRefs.map .str)),
      ("credential_configured", .bool (openaiSecretConfigured env))])

def envModelBinding (lane : String) : Option Dict :=
  if lane = "hermes" then
    bridgeBinding env "HERMES_INFERENCE_PROVIDER" ["HERMES_MODEL", "LLM_MODEL", "MINIMAX_MODEL"]
      "hermes_bridge" "environment:HERMES_*" []
  else if lane = "goose" then
    bridgeBinding env "GOOSE_PROVIDER"
      ["GOOSE_MODEL", "HERMES_MODEL", "LLM_MODEL", "MINIMAX_MODEL"]
      "goose_bridge" "environment:GOOSE_*"
      [("fallback_provider", .str (firstSet env ["GOOSE_FALLBACK_PROVIDER"])),
        ("fallback_model", .str (firstSet env ["GOOSE_FALLBACK_MODEL"]))]
  else none

def providerFromModel (model : String) : String :=
  if ':' ∈ model.toList then String.ofList (model.toList.takeWhile (· ≠ ':'))
  else if '/' ∈ model.toList then "huggingface"
  else ""

def secretRefsConfigured (names : List String) : Bool :=
  names.any fun name => pyStrip ((env name).getD "") != ""

def keptMembers : List String :=
  ["device", "prompt_mode", "max_new_tokens", "fallback_provider", "fallback_model"]

def sanitizeModelBinding (lane : String) (binding : Dict) :
    Except PyError ModelBinding := do
  let refs ← pyList (pyOr (getOr binding "secret_ref_envs" .null) (.arr []))
  let secretRefEnvs := refs.map pyStr
  let inferred := providerFromModel (textOrEmpty binding "model")
  return {
    supported := flagAt binding "supported" true
    bindingStatus := textOr binding "binding_status" "resolved"
    provider := textOr binding "provider" (if inferred = "" then "unknown" else inferred)
    model := textOr binding "model" "unknown"
    route := textOr binding "route" (laneAdapter lane)
    configSource := textOr binding "config_source" "profile"
    secretRefEnvs := secretRefEnvs
    credentialConfigured := flagAt binding "credential_configured"
      (secretRefsConfigured env secretRefEnvs)
    further := keptMembers.filterMap fun key =>
      let value := getOr binding key .null
      if value = .null then none else some (key, value) }

def unconfiguredBinding (lane : String) : ModelBinding :=
  if lane ∈ modelBoundAgentWorkers then
    { supported := true
      bindingStatus := "unconfigured"
      provider := "unknown"
      model := "unknown"
      route := laneAdapter lane
      configSource := "unresolved"
      secretRefEnvs := []
      credentialConfigured := false }
  else
    { supported := false
      bindingStatus := "not_supported"
      provider := "none"
      model := "none"
      route := laneAdapter lane
      configSource := "not_model_backed"
      secretRefEnvs := []
      credentialConfigured := false }

/-- The binding of `deepagents`, for the lanes that inherit it. -/
def inheritedBinding (profile : Profile) (supplied : Dict) (lane : String) : Option Dict :=
  if lane ∈ ["codex", "claudecode", "openclaw"] then
    ((nestedLaneBinding supplied "deepagents").or
      (nestedLaneBinding profile.modelProviderPolicy.laneDefaults "deepagents")).map
        fun binding => binding.set "config_source"
          (pyOr (getOr binding "config_source" .null) (.str "inherited:deepagents"))
  else none

def modelBinding (profile : Profile) (rule : Rule) (supplied : Dict)
    (lane : String) : Except PyError ModelBinding :=
  let candidates : List (Option Dict) :=
    [nestedLaneBinding supplied lane,
      nestedLaneBinding rule.modelBindings lane,
      nestedLaneBinding (laneOverride rule lane) "model_binding",
      nestedLaneBinding profile.modelProviderPolicy.laneDefaults lane,
      envModelBinding env lane,
      inheritedBinding profile supplied lane]
  match candidates.findSome? id with
  | some binding => sanitizeModelBinding env lane binding
  | none => .ok (unconfiguredBinding lane)

inductive LaneAuthority where
  | proposalOnly
  | boundedAction
deriving DecidableEq

def certifiedActionStates : List String := ["pilot-ready", "production-ready"]

def proposalStates : List String :=
  ["proposal-only", "read-only", "staging-ready", "mock", "disabled", "unfinished"]

def certifiedState (cert : Dict) : String := textOr cert "state" "mock"

/-- The members of `credential_boundary`, where it has any. -/
def credentialBoundary (cert : Dict) : Dict :=
  match cert.get? "credential_boundary" with
  | some (.obj boundary) => boundary
  | _ => []

def credentialsAllowed (cert : Dict) : Bool :=
  truthyAt (credentialBoundary cert) "production_actuator_credentials_allowed"

def boundedActionAllowed (cert : Dict) (requestedAuthority : String) : Bool :=
  requestedAuthority = "bounded_action" && certifiedActionStates.contains (certifiedState cert) &&
    credentialsAllowed cert

/-- What `(credential_boundary or {}).get(…)` says of production credentials, without asking
whether it is a dictionary. -/
def actuatorCredentials (cert : Dict) : Except PyError Bool :=
  match getOr cert "credential_boundary" .null with
  | .obj _ => .ok (credentialsAllowed cert)
  | value => if truthy value then noMembers value else .ok false

def laneAuthority (lane : String) (cert : Dict) (requestedAuthority : String) :
    Except PyError (LaneAuthority × List String) := do
  if boundedActionAllowed cert requestedAuthority then
    return (.boundedAction, [])
  if requestedAuthority = "bounded_action" then
    return (.proposalOnly, [lane ++ "_bounded_action_not_certified"])
  if lane = "kubernetes" ∧ certifiedState cert ∈ certifiedActionStates then
    if ← actuatorCredentials cert then
      return (.boundedAction, [])
    return (.proposalOnly, ["kubernetes_actuator_credentials_not_certified"])
  if certifiedState cert ∈ proposalStates then
    return (.proposalOnly, [])
  return (.proposalOnly, [lane ++ "_connector_not_certified_for_action"])

def laneBoundaryBlockers (lane : String) (authority : LaneAuthority) (cert : Dict) :
    List String :=
  if authority = .proposalOnly then
    (if credentialsAllowed cert then
      [lane ++ "_proposal_lane_has_actuator_credential_boundary"] else []) ++
    (if truthyAt (credentialBoundary cert) "repo_write_credentials_allowed" then
      [lane ++ "_proposal_lane_has_repo_write_credential_boundary"] else [])
  else []

/-- A record of `selected_lanes`. -/
structure LaneRecord where
  laneId : String
  role : String
  topologyRole : String
  adapter : String
  runtimeMode : String
  generativeCapability : String
  modelBinding : ModelBinding
  authority : LaneAuthority
  certifiedState : String
  authorityPosture : Json
  credentialBoundary : Json
  reconciliationMode : String
  blockers : List String

/-- What a resolution is made from, after its files are read. -/
structure Request where
  profile : Profile
  context : Dict
  ownershipBoundary : Dict
  registryPayload : Json
  readinessSnapshot : Dict
  candidateLanes : List String
  configuredFilter : List String
  laneModelBindings : Dict
  environment : Environment

namespace Request

variable (request : Request)

def rule : Rule := matchingRule request.profile request.context

def selected : List String :=
  selectLanes request.rule request.candidateLanes request.configuredFilter

/-- How the resolution reconciles its lanes. -/
def reconciliation : String :=
  if request.rule.reconciliation = "" then defaultReconciliation request.rule.topology
  else request.rule.reconciliation

end Request

def laneRecord (request : Request) (certifications : Certifications) (lane : String) :
    Except PyError LaneRecord := do
  let cert := (certifications lane).getD []
  let override := laneOverride request.rule lane
  let shownRole := textOr override "topology_role" (topologyRole lane request.rule.topology)
  let binding ← modelBinding request.environment request.profile request.rule
    request.laneModelBindings lane
  let (authority, blockers) ← laneAuthority lane cert (textOrEmpty override "authority")
  return {
    laneId := lane
    role := textOr override "role" (laneRole lane request.rule.topology)
    topologyRole := shownRole
    adapter := laneAdapter lane
    runtimeMode := laneRuntimeMode lane
    generativeCapability :=
      if lane ∈ modelBoundAgentWorkers ∨ binding.supported then "model_bound"
      else "not_model_backed"
    modelBinding := binding
    authority := authority
    certifiedState := certifiedState cert
    authorityPosture := pyOr (getOr cert "authority_posture" .null)
      (pyOr (getOr cert "detail" .null) (.str "Mesh governs this lane"))
    credentialBoundary := pyOr (getOr cert "credential_boundary" .null) (.obj [])
    reconciliationMode := textOr override "reconciliation_mode"
      (laneReconciliationMode shownRole request.reconciliation)
    blockers := blockers ++ laneBoundaryBlockers lane authority cert }

def topologyBlockers (rule : Rule) (ownership context : Dict) : List String :=
  if rule.topology = .federated then
    (if truthyAt ownership "matched" then [] else ["federated_ownership_boundary_unresolved"]) ++
    (if rule.dataBoundaryRequired ∧ !truthyAt ownership "data_boundary" then
      ["federated_data_boundary_missing"] else []) ++
    (if rule.credentialBoundaryRequired ∧ !truthyAt context "tenant_id" then
      ["federated_tenant_boundary_missing"] else [])
  else []

def riskPolicyBlockers (rule : Rule) (records : List LaneRecord) (context : Dict) :
    List String :=
  (if rule.riskPolicy.get? "operator_approval_required" = some (.bool true) ∧
      getOr context "risk_tier" .null ∈ [.str "medium", .str "high", .str "critical"] then
    ["operator_approval_required_for_topology_risk_policy"] else []) ++
  if textOrEmpty rule.riskPolicy "maximum_lane_authority" = "proposal_only" then
    (records.filter fun record => record.authority = .boundedAction).map
      (·.laneId ++ "_authority_exceeds_rule_risk_policy")
  else []

/-- The pairs of provider and model that `allowed_models` lists. -/
def allowedModels (policy : ModelProviderPolicy) : List (String × String) :=
  policy.allowedModels.map fun item => (textOrEmpty item "provider", textOrEmpty item "model")

variable (policy : ModelProviderPolicy)

def providerRefused (binding : ModelBinding) : Bool :=
  binding.provider != "" && binding.provider != "unknown" &&
    !policy.allowedProviders.isEmpty && !policy.allowedProviders.contains binding.provider

/-- The model is known, and the list of models leaves it out; what is allowed for
`openai-compatible` is allowed for `openai`. -/
def modelRefused (binding : ModelBinding) : Bool :=
  binding.model != "" && binding.model != "unknown" &&
    !(allowedModels policy).isEmpty &&
    !(allowedModels policy).contains (binding.provider, binding.model) &&
    !(binding.provider == "openai" &&
      (allowedModels policy).contains ("openai-compatible", binding.model))

/-- What `_model_policy_blockers` says of one lane. -/
def modelPolicyBlockersOf (record : LaneRecord) : List String :=
  if record.modelBinding.supported then
    (if providerRefused policy record.modelBinding then
      [record.laneId ++ "_model_provider_not_allowed"] else []) ++
    (if modelRefused policy record.modelBinding then
      [record.laneId ++ "_model_not_allowed"] else [])
  else []

def modelPolicyBlockers (records : List LaneRecord) :
    List String :=
  records.flatMap (modelPolicyBlockersOf policy)

structure Resolution where
  activeTopology : Mode
  ruleId : String
  configuredFilter : List String
  selectedAgents : List String
  selectedLanes : List LaneRecord
  blockers : List String
  reconciliation : String

def resolveOrchestrationTopology (request : Request) : Except PyError Resolution := do
  let certifications ← connectorCertifications request.registryPayload request.readinessSnapshot
  let records ← request.selected.mapM (laneRecord request certifications)
  let rule := request.rule
  let blockers := rule.blockers ++
    laneSelectionBlockers rule request.selected request.configuredFilter ++
    topologyBlockers rule request.ownershipBoundary request.context ++
    riskPolicyBlockers rule records request.context ++
    modelPolicyBlockers request.profile.modelProviderPolicy records ++
    records.flatMap LaneRecord.blockers
  return {
    activeTopology := rule.topology
    ruleId := if rule.ruleId = "" then "default" else rule.ruleId
    configuredFilter := request.configuredFilter
    selectedAgents := records.map LaneRecord.laneId
    selectedLanes := records
    blockers := sortedSet blockers
    reconciliation := request.reconciliation }

section

variable {rule : Rule} {candidates configuredFilter : List String} {lane : String}

theorem mem_filteredCandidates :
    lane ∈ filteredCandidates candidates configuredFilter ↔
      lane ∈ candidates ∧ (configuredFilter ≠ [] → lane ∈ configuredFilter) := by
  unfold filteredCandidates
  cases configuredFilter with
  | nil | cons first rest => simp

/-- What is selected has passed the filter, or no lane that the rule asks for is among the
candidates of an open mesh, and then all that it asks for is selected. -/
theorem selectLanes_cases (rule : Rule) (candidates configuredFilter : List String) :
    (∀ lane ∈ selectLanes rule candidates configuredFilter,
      lane ∈ filteredCandidates candidates configuredFilter) ∨
    (configuredFilter = [] ∧ (∀ lane ∈ requestedRuleLanes rule, lane ∉ candidates) ∧
      selectLanes rule candidates configuredFilter = requestedRuleLanes rule) := by
  simp only [selectLanes]
  split
  · exact .inl fun _ hmem => hmem
  · split
    · refine .inl fun lane hmem => ?_
      simpa using (List.mem_filter.mp hmem).2
    · next hnone =>
      split
      · next hopen =>
        rw [List.isEmpty_iff] at hopen
        subst hopen
        refine .inr ⟨rfl, fun lane hmem hcandidate => ?_, rfl⟩
        have hselected : lane ∈ (requestedRuleLanes rule).filter fun lane =>
            (filteredCandidates candidates []).contains lane :=
          List.mem_filter.mpr ⟨hmem, by simpa [filteredCandidates] using hcandidate⟩
        rw [Bool.not_eq_true, Bool.not_eq_false', List.isEmpty_iff] at hnone
        rw [hnone] at hselected
        cases hselected
      · exact .inl fun _ hmem => hmem

/-- Under a filter every lane that is asked for and not selected is blocked, by itself or
together with all that the rule asks for. -/
theorem mem_laneSelectionBlockers {selected : List String} (hfilter : configuredFilter ≠ [])
    (hrequested : lane ∈ requestedRuleLanes rule) (hmissing : lane ∉ selected) :
    "topology_lane_filtered:" ++ lane ∈ laneSelectionBlockers rule selected configuredFilter ∨
      ((∀ other ∈ requestedRuleLanes rule, other ∉ selected) ∧
        "topology_rule_lanes_filtered_by_agent_mesh_agents" ∈
          laneSelectionBlockers rule selected configuredFilter) := by
  have hasked : ((requestedRuleLanes rule).isEmpty || configuredFilter.isEmpty) = false := by
    rw [Bool.or_eq_false_iff]
    exact ⟨by simpa using List.ne_nil_of_mem hrequested, by simpa using hfilter⟩
  simp only [laneSelectionBlockers, hasked, Bool.false_eq_true, if_false]
  split
  · next hdisjoint =>
    exact .inr ⟨by simpa using hdisjoint, List.mem_singleton.mpr rfl⟩
  · refine .inl (List.mem_map.mpr ⟨lane, mem_sortedSet.mpr ?_, rfl⟩)
    exact List.mem_filter.mpr ⟨hrequested, by simpa using hmissing⟩

end

variable {lane : String}

theorem correctConnector_of_ne {connectors : Certifications} {entry : String × Json}
    (h : lane ≠ entry.1) : correctConnector connectors entry lane = connectors lane := by
  obtain ⟨key, value⟩ := entry
  cases hfound : connectors key with
  | none | some cert => cases value <;> simp [correctConnector, hfound, Function.update_of_ne h]

/-- The running system leaves alone what it does not report on. -/
theorem foldl_correctConnector (entries : Dict) (connectors : Certifications)
    (h : entries.get? lane = none) :
    entries.foldl correctConnector connectors lane = connectors lane := by
  induction entries generalizing connectors with
  | nil => rfl
  | cons entry rest ih =>
    obtain ⟨key, value⟩ := entry
    rw [Dict.get?_cons] at h
    by_cases hkey : lane = key
    · simp [hkey] at h
    · rw [if_neg hkey] at h
      rw [List.foldl_cons, ih _ h]
      exact correctConnector_of_ne hkey

def CertifiedToAct (cert : Dict) : Prop :=
  certifiedState cert ∈ certifiedActionStates ∧ credentialsAllowed cert = true

instance (cert : Dict) : Decidable (CertifiedToAct cert) := by
  unfold CertifiedToAct
  infer_instance

variable {cert : Dict} {requested : String}

theorem certifiedToAct_of_boundedActionAllowed (h : boundedActionAllowed cert requested = true) :
    CertifiedToAct cert := by
  simp only [boundedActionAllowed, Bool.and_eq_true, List.contains_iff_mem] at h
  exact ⟨h.1.2, h.2⟩

theorem credentialsAllowed_of_actuatorCredentials (h : actuatorCredentials cert = .ok true) :
    credentialsAllowed cert = true := by
  unfold actuatorCredentials at h
  split at h
  · exact Except.ok.inj h
  · split at h <;> cases h

theorem certifiedToAct_of_laneAuthority {blockers : List String}
    (h : laneAuthority lane cert requested = .ok (.boundedAction, blockers)) :
    CertifiedToAct cert := by
  unfold laneAuthority at h
  split at h
  · next hallowed => exact certifiedToAct_of_boundedActionAllowed hallowed
  · split at h
    · cases h
    · split at h
      · next hkubernetes =>
        obtain ⟨allowed, hallowed, h⟩ := bind_ok h
        cases allowed with
        | false => cases h
        | true => exact ⟨hkubernetes.2, credentialsAllowed_of_actuatorCredentials hallowed⟩
      · split at h <;> cases h

theorem textOr_ne_empty {d : Dict} {key default : String} (h : default ≠ "") :
    textOr d key default ≠ "" := by
  unfold textOr
  split
  · exact h
  · assumption

theorem modelBinding_named {env : Environment} {profile : Profile} {rule : Rule} {supplied : Dict}
    {binding : ModelBinding} (h : modelBinding env profile rule supplied lane = .ok binding) :
    binding.provider ≠ "" ∧ binding.model ≠ "" := by
  simp only [modelBinding] at h
  split at h
  · obtain ⟨refs, -, h⟩ := bind_ok h
    cases h
    refine ⟨textOr_ne_empty ?_, textOr_ne_empty (by decide)⟩
    split
    · decide
    · assumption
  · cases h
    unfold unconfiguredBinding
    split <;> simp

section

variable {request : Request} {certifications : Certifications} {lane : String}
  {record : LaneRecord}

/-- What a record takes from its lane: its name, a binding that is named, and an authority that
the certification lets it have. -/
theorem laneRecord_ok (h : laneRecord request certifications lane = .ok record) :
    record.laneId = lane ∧
      (record.modelBinding.provider ≠ "" ∧ record.modelBinding.model ≠ "") ∧
      (record.authority = .boundedAction →
        CertifiedToAct ((certifications lane).getD [])) := by
  obtain ⟨binding, hbinding, h⟩ := bind_ok h
  obtain ⟨⟨authority, blockers⟩, hauthority, h⟩ := bind_ok h
  cases h
  refine ⟨rfl, modelBinding_named hbinding, ?_⟩
  rintro rfl
  exact certifiedToAct_of_laneAuthority hauthority

theorem not_certifiedToAct_nil : ¬CertifiedToAct [] := by decide

theorem exists_certification (h : laneRecord request certifications lane = .ok record)
    (hacts : record.authority = .boundedAction) :
    ∃ cert, certifications record.laneId = some cert ∧ CertifiedToAct cert := by
  obtain ⟨hname, -, hcertified⟩ := laneRecord_ok h
  have hacting := hcertified hacts
  rw [hname]
  cases hfound : certifications lane with
  | none =>
    rw [hfound] at hacting
    exact absurd hacting not_certifiedToAct_nil
  | some cert =>
    rw [hfound] at hacting
    exact ⟨cert, rfl, hacting⟩

theorem map_laneId {lanes : List String} {records : List LaneRecord}
    (h : lanes.mapM (laneRecord request certifications) = .ok records) :
    records.map LaneRecord.laneId = lanes := by
  induction lanes generalizing records with
  | nil =>
    cases h
    rfl
  | cons lane rest ih =>
    rw [List.mapM_cons] at h
    obtain ⟨record, hrecord, h⟩ := bind_ok h
    obtain ⟨others, hothers, h⟩ := bind_ok h
    cases h
    rw [List.map_cons, ih hothers, (laneRecord_ok hrecord).1]

end

section

variable {request : Request} {resolution : Resolution}

theorem resolve_ok (h : resolveOrchestrationTopology request = .ok resolution) :
    ∃ certifications, connectorCertifications request.registryPayload
        request.readinessSnapshot = .ok certifications ∧
      request.selected.mapM (laneRecord request certifications) = .ok resolution.selectedLanes ∧
      resolution.selectedAgents = request.selected ∧
      (∀ blocker ∈ laneSelectionBlockers request.rule request.selected
        request.configuredFilter, blocker ∈ resolution.blockers) ∧
      ∀ blocker ∈ modelPolicyBlockers request.profile.modelProviderPolicy
        resolution.selectedLanes, blocker ∈ resolution.blockers := by
  obtain ⟨certifications, hcertifications, h⟩ := bind_ok h
  obtain ⟨records, hrecords, h⟩ := bind_ok h
  cases h
  refine ⟨certifications, hcertifications, hrecords, map_laneId hrecords,
    fun blocker hmem => mem_sortedSet.mpr ?_, fun blocker hmem => mem_sortedSet.mpr ?_⟩
  · simp only [List.mem_append]
    exact .inl (.inl (.inl (.inl (.inr hmem))))
  · simp only [List.mem_append]
    exact .inl (.inr hmem)

/-- The lanes are candidates that the filter lets through or, in an open mesh without such, those
that the rule asks for. -/
def KeepsToCandidates (request : Request) (resolution : Resolution) : Prop :=
  (∀ lane ∈ resolution.selectedAgents, lane ∈ request.candidateLanes ∧
    (request.configuredFilter ≠ [] → lane ∈ request.configuredFilter)) ∨
  (request.configuredFilter = [] ∧
    (∀ lane ∈ requestedRuleLanes request.rule, lane ∉ request.candidateLanes) ∧
    resolution.selectedAgents = requestedRuleLanes request.rule)

/-- A lane acts only with a certification that lets it, as the registry gives it and the running
system corrects it. -/
def ActsWhenCertified (request : Request) (resolution : Resolution) : Prop :=
  ∃ registry certifications,
    registryConnectors request.registryPayload = .ok registry ∧
    connectorCertifications request.registryPayload request.readinessSnapshot =
      .ok certifications ∧
    (∀ lane, (runtimeConnectors request.readinessSnapshot).get? lane = none →
      certifications lane = registry lane) ∧
    ∀ record ∈ resolution.selectedLanes, record.authority = .boundedAction →
      ∃ cert, certifications record.laneId = some cert ∧ CertifiedToAct cert

/-- Under a filter a lane that the rule asks for is selected, or blocked by itself, or blocked
with all that the rule asks for. -/
def AnswersRequests (request : Request) (resolution : Resolution) : Prop :=
  request.configuredFilter ≠ [] →
    ∀ lane ∈ requestedRuleLanes request.rule, lane ∉ resolution.selectedAgents →
      "topology_lane_filtered:" ++ lane ∈ resolution.blockers ∨
      ((∀ other ∈ requestedRuleLanes request.rule, other ∉ resolution.selectedAgents) ∧
        "topology_rule_lanes_filtered_by_agent_mesh_agents" ∈ resolution.blockers)

/-- A known provider or model that a list leaves out is blocked; what a list allows for
`openai-compatible` it allows for `openai`. -/
def AnswersModels (request : Request) (resolution : Resolution) : Prop :=
  let policy := request.profile.modelProviderPolicy
  ∀ record ∈ resolution.selectedLanes, record.modelBinding.supported = true →
    (record.modelBinding.provider ≠ "unknown" → policy.allowedProviders ≠ [] →
      record.modelBinding.provider ∉ policy.allowedProviders →
      record.laneId ++ "_model_provider_not_allowed" ∈ resolution.blockers) ∧
    (record.modelBinding.model ≠ "unknown" → allowedModels policy ≠ [] →
      (record.modelBinding.provider, record.modelBinding.model) ∉ allowedModels policy →
      (record.modelBinding.provider = "openai" →
        ("openai-compatible", record.modelBinding.model) ∉ allowedModels policy) →
      record.laneId ++ "_model_not_allowed" ∈ resolution.blockers)

section

variable (h : resolveOrchestrationTopology request = .ok resolution)

include h

theorem keepsToCandidates : KeepsToCandidates request resolution := by
  obtain ⟨-, -, -, hselected, -, -⟩ := resolve_ok h
  rw [KeepsToCandidates, hselected]
  rcases selectLanes_cases request.rule request.candidateLanes request.configuredFilter with
    hfiltered | hopen
  · exact .inl fun lane hmem => mem_filteredCandidates.mp (hfiltered lane hmem)
  · exact .inr hopen

theorem actsWhenCertified : ActsWhenCertified request resolution := by
  obtain ⟨certifications, hcertifications, hrecords, -, -, -⟩ := resolve_ok h
  obtain ⟨registry, hregistry, hmerged⟩ := bind_ok hcertifications
  cases hmerged
  refine ⟨registry, _, hregistry, hcertifications, fun lane hlane =>
    foldl_correctConnector _ registry hlane, fun record hmem hacts => ?_⟩
  obtain ⟨lane, -, hrecord⟩ := exists_of_mem_mapM hrecords hmem
  exact exists_certification hrecord hacts

theorem answersRequests : AnswersRequests request resolution := by
  obtain ⟨-, -, -, hselected, hblockers, -⟩ := resolve_ok h
  intro hfilter lane hrequested hmissing
  rw [hselected] at hmissing ⊢
  rcases mem_laneSelectionBlockers hfilter hrequested hmissing with hone | ⟨hnone, hall⟩
  · exact .inl (hblockers _ hone)
  · exact .inr ⟨hnone, hblockers _ hall⟩

theorem answersModels : AnswersModels request resolution := by
  obtain ⟨certifications, -, hrecords, -, -, hblockers⟩ := resolve_ok h
  intro record hmem hsupported
  obtain ⟨lane, -, hrecord⟩ := exists_of_mem_mapM hrecords hmem
  obtain ⟨-, ⟨hprovider, hmodel⟩, -⟩ := laneRecord_ok hrecord
  have hblocked : ∀ blocker ∈ modelPolicyBlockersOf request.profile.modelProviderPolicy record,
      blocker ∈ resolution.blockers := fun blocker hblocker =>
    hblockers _ (List.mem_flatMap.mpr ⟨record, hmem, hblocker⟩)
  constructor
  · intro hknown hlist hout
    have hrefused : providerRefused request.profile.modelProviderPolicy
        record.modelBinding = true := by
      simp [providerRefused, hprovider, hknown, hlist, hout]
    exact hblocked _ (by simp [modelPolicyBlockersOf, hsupported, hrefused])
  · intro hknown hlist hout hcompatible
    have hrefused : modelRefused request.profile.modelProviderPolicy
        record.modelBinding = true := by
      simpa [modelRefused, hmodel, hknown, hlist, hout] using imp_iff_not_or.mp hcompatible
    exact hblocked _ (by simp [modelPolicyBlockersOf, hsupported, hrefused])

/-- **Authority is bounded by certification and policy**: lanes keep to the candidates and the
filter and act only when certified. -/
theorem lanes_keep_to_policy :
    KeepsToCandidates request resolution ∧ ActsWhenCertified request resolution ∧
      AnswersRequests request resolution ∧ AnswersModels request resolution :=
  ⟨keepsToCandidates h, actsWhenCertified h, answersRequests h, answersModels h⟩

end

end

def profileFor (lanes : List String) : Profile where
  defaultTopology := .centralized
  modelProviderPolicy := {
    allowedProviders := ["openai-compatible"]
    allowedModels := [[("provider", .str "openai-compatible"), ("model", .str "MiniMax-M2.5")]]
    laneDefaults := [] }
  rules := [{ ruleId := "search-rollback", topology := .hybrid, lanes := lanes }]

def certifiedKubernetes : Dict :=
  [("connector_id", .str "kubernetes"),
    ("state", .str "production-ready"),
    ("credential_boundary", .obj [("production_actuator_credentials_allowed", .bool true)])]

/-- A rule asks for three lanes; the filter lets one through, which is certified and bound to a
model that the policy does not list. -/
def filteredRequest : Request where
  profile := profileFor ["kubernetes", "temporal", "hermes"]
  context := []
  ownershipBoundary := []
  registryPayload := .obj [("connectors", .arr [.obj certifiedKubernetes])]
  readinessSnapshot := []
  candidateLanes := ["kubernetes", "hermes"]
  configuredFilter := ["kubernetes"]
  laneModelBindings := [("kubernetes", .obj [("model", .str "anthropic:opus")])]
  environment := fun _ => none

theorem lanes_keep_to_policy_filtered :
    ∃ resolution, resolveOrchestrationTopology filteredRequest = .ok resolution ∧
      (KeepsToCandidates filteredRequest resolution ∧
        ActsWhenCertified filteredRequest resolution ∧
        AnswersRequests filteredRequest resolution ∧
        AnswersModels filteredRequest resolution) :=
  ⟨_, rfl, lanes_keep_to_policy rfl⟩

def AllCandidates (request : Request) (resolution : Resolution) : Prop :=
  ∀ lane ∈ resolution.selectedAgents, lane ∈ request.candidateLanes ∧
    (request.configuredFilter ≠ [] → lane ∈ request.configuredFilter)

def RegistryCertified (request : Request) (resolution : Resolution) : Prop :=
  ∀ record ∈ resolution.selectedLanes, record.authority = .boundedAction →
    ∃ registry cert, registryConnectors request.registryPayload = .ok registry ∧
      registry record.laneId = some cert ∧ CertifiedToAct cert

def EveryRequestAnswered (request : Request) (resolution : Resolution) : Prop :=
  ∀ lane ∈ requestedRuleLanes request.rule, lane ∉ resolution.selectedAgents →
    resolution.blockers ≠ []

def EveryModelAnswered (request : Request) (resolution : Resolution) : Prop :=
  let policy := request.profile.modelProviderPolicy
  ∀ record ∈ resolution.selectedLanes, record.modelBinding.supported = true →
    record.modelBinding.provider = "unknown" ∨ record.modelBinding.model = "unknown" ∨
      (policy.allowedProviders ≠ [] ∧
        record.modelBinding.provider ∉ policy.allowedProviders) ∨
      (allowedModels policy ≠ [] ∧
        (record.modelBinding.provider, record.modelBinding.model) ∉ allowedModels policy) →
    resolution.blockers ≠ []

def strayRequest : Request where
  profile := profileFor ["kubernetes"]
  context := []
  ownershipBoundary := []
  registryPayload := .obj [("connectors", .arr [])]
  readinessSnapshot :=
    [("connector_certification", .obj [("kubernetes", .obj certifiedKubernetes)])]
  candidateLanes := ["hermes"]
  configuredFilter := []
  laneModelBindings := []
  environment := fun _ => none

def quietRequest : Request where
  profile := profileFor ["hermes", "temporal"]
  context := []
  ownershipBoundary := []
  registryPayload := .obj [("connectors", .arr [])]
  readinessSnapshot := []
  candidateLanes := ["hermes"]
  configuredFilter := []
  laneModelBindings := []
  environment := fun _ => none

theorem strays_and_unknowns_pass :
    (∃ resolution, resolveOrchestrationTopology strayRequest = .ok resolution ∧
      ¬AllCandidates strayRequest resolution ∧ ¬RegistryCertified strayRequest resolution) ∧
    (∃ resolution, resolveOrchestrationTopology quietRequest = .ok resolution ∧
      ¬EveryRequestAnswered quietRequest resolution ∧
      ¬EveryModelAnswered quietRequest resolution) := by
  refine ⟨⟨_, rfl, fun h => ?_, fun h => ?_⟩, ⟨_, rfl, fun h => ?_, fun h => ?_⟩⟩
  · exact absurd (h "kubernetes" (.head _)).1 (by decide)
  · obtain ⟨registry, cert, hregistry, hcert, -⟩ := h _ (.head _) rfl
    cases hregistry
    cases hcert
  · exact h "temporal" (by decide) (by decide) rfl
  · exact h _ (.head _) rfl (.inl rfl) rfl

end OrbitalMesh.Topology
