import OrbitalMesh.Decision.Guards

/-!
# Hypotheses about a deployment

`HypothesisEngine.generate`: templates chosen by the error signatures, checked
against the stores, then the candidates of an investigation report, then a ranking
by posterior confidence.  A report adds hypotheses of its own and writes itself
into the evidence of the others; it does not enter their posteriors.
-/

namespace OrbitalMesh.Decision

/-- What a predicate asks; a deployment has no evidence pack. -/
inductive PredicateKind where
  | recentDeploy (withinSeconds : Int)
  | noRecentDeploy (withinSeconds : Int)
  | configChange (withinSeconds : Int)
  | pastRollbackSuccess
  | pastScaleSuccess
  | recoveredFromRestart
  | upstreamDegraded
  | multiServicePullFailure
  | ofNode (kind : String)
  | rootCauseCandidate
deriving DecidableEq

/-- The spelling of `predicate.kind`. -/
def PredicateKind.name : PredicateKind → String
  | .recentDeploy _ => "recent_deploy"
  | .noRecentDeploy _ => "no_recent_deploy"
  | .configChange _ => "configmap_or_secret_change_nearby"
  | .pastRollbackSuccess => "service_has_past_rollback_success"
  | .pastScaleSuccess => "service_has_past_scale_success"
  | .recoveredFromRestart => "recovered_from_restart_before"
  | .upstreamDegraded => "upstream_service_degraded"
  | .multiServicePullFailure => "multi_service_image_pull_failure"
  | .ofNode kind => kind
  | .rootCauseCandidate => "investigation_root_cause_candidate"

inductive PredicateResult where
  | supported
  | disconfirmed
  | unknown
deriving DecidableEq

structure FalsificationPredicate where
  kind : PredicateKind
  weight : Binary64 := 1.0
  result : Option PredicateResult := none

/-- `Hypothesis`, without the text for readers. -/
structure Hypothesis where
  hypothesisId : String
  candidateCause : String
  recommendedAction : String
  priorConfidence : Binary64
  predicates : List FalsificationPredicate := []
  supportingEvidence : List String := []
  disconfirmingEvidence : List String := []

def crashLoopTemplates : List Hypothesis :=
  [{ hypothesisId := "h_crash_recent_deploy", candidateCause := "recent_deploy",
     recommendedAction := "rollback_deployment", priorConfidence := 0.55,
     predicates := [{ kind := .recentDeploy 900 }, { kind := .pastRollbackSuccess }] },
   { hypothesisId := "h_crash_config_change", candidateCause := "config_change",
     recommendedAction := "rollback_deployment", priorConfidence := 0.45,
     predicates := [{ kind := .configChange 900 }] },
   { hypothesisId := "h_crash_transient", candidateCause := "transient",
     recommendedAction := "restart_deployment", priorConfidence := 0.40,
     predicates := [{ kind := .noRecentDeploy 3600, weight := 0.7 },
       { kind := .recoveredFromRestart, weight := 1.0 }] }]

def oomKilledTemplates : List Hypothesis :=
  [{ hypothesisId := "h_oom_undersized", candidateCause := "memory_undersize",
     recommendedAction := "scale_deployment", priorConfidence := 0.55,
     predicates := [{ kind := .pastScaleSuccess },
       { kind := .noRecentDeploy 3600, weight := 0.6 }] },
   { hypothesisId := "h_oom_leak_from_deploy", candidateCause := "recent_deploy",
     recommendedAction := "rollback_deployment", priorConfidence := 0.50,
     predicates := [{ kind := .recentDeploy 1800 }] }]

def imagePullFailureTemplates : List Hypothesis :=
  [{ hypothesisId := "h_image_tag_missing", candidateCause := "bad_image_tag",
     recommendedAction := "rollback_deployment", priorConfidence := 0.75,
     predicates := [{ kind := .recentDeploy 1800 }] },
   { hypothesisId := "h_registry_outage", candidateCause := "registry_outage",
     recommendedAction := "escalate", priorConfidence := 0.30,
     predicates := [{ kind := .multiServicePullFailure }] }]

def probeFailureTemplates : List Hypothesis :=
  [{ hypothesisId := "h_probe_startup_slow", candidateCause := "slow_startup",
     recommendedAction := "restart_deployment", priorConfidence := 0.50,
     predicates := [{ kind := .recentDeploy 600 }] },
   { hypothesisId := "h_probe_dependency_down", candidateCause := "upstream_outage",
     recommendedAction := "escalate", priorConfidence := 0.40,
     predicates := [{ kind := .upstreamDegraded }] }]

def rethPeerStarvationTemplates : List Hypothesis :=
  [{ hypothesisId := "h_reth_peer_local_isolation", candidateCause := "local_isolation",
     recommendedAction := "restart_systemd_service", priorConfidence := 0.55,
     predicates := [{ kind := .ofNode "peer_count_below_min" },
       { kind := .ofNode "rpc_http_reachable" }, { kind := .ofNode "engine_api_reachable" }] },
   { hypothesisId := "h_reth_peer_consensus_disconnect", candidateCause := "consensus_disconnect",
     recommendedAction := "escalate", priorConfidence := 0.50,
     predicates := [{ kind := .ofNode "engine_api_unreachable", weight := 1.5 }] },
   { hypothesisId := "h_reth_peer_transient", candidateCause := "transient",
     recommendedAction := "no_action", priorConfidence := 0.35,
     predicates := [{ kind := .ofNode "peer_count_above", weight := 0.6 }] }]

def rethSyncStalledTemplates : List Hypothesis :=
  [{ hypothesisId := "h_reth_sync_consensus_disconnect", candidateCause := "consensus_disconnect",
     recommendedAction := "escalate", priorConfidence := 0.55,
     predicates := [{ kind := .ofNode "engine_api_unreachable" },
       { kind := .ofNode "forkchoice_updates_stale", weight := 0.8 }] },
   { hypothesisId := "h_reth_sync_disk_pressure", candidateCause := "disk_pressure",
     recommendedAction := "escalate", priorConfidence := 0.50,
     predicates := [{ kind := .ofNode "disk_used_pct_above" }] },
   { hypothesisId := "h_reth_sync_catching_up", candidateCause := "transient",
     recommendedAction := "no_action", priorConfidence := 0.30,
     predicates := [{ kind := .ofNode "block_lag_below", weight := 0.6 }] }]

def rethRpcDegradedTemplates : List Hypothesis :=
  [{ hypothesisId := "h_reth_rpc_exposed_overload", candidateCause := "rpc_exposure_abuse",
     recommendedAction := "escalate", priorConfidence := 0.65,
     predicates := [{ kind := .ofNode "rpc_publicly_exposed" },
       { kind := .ofNode "rpc_error_rate_above", weight := 0.8 }] },
   { hypothesisId := "h_reth_rpc_internal_overload", candidateCause := "rpc_saturation",
     recommendedAction := "restart_systemd_service", priorConfidence := 0.55,
     predicates := [{ kind := .ofNode "rpc_error_rate_above" },
       { kind := .ofNode "rpc_not_publicly_exposed", weight := 0.5 }] }]

def templatesBySignature : List (String × List Hypothesis) :=
  [("crash_loop", crashLoopTemplates), ("oom_killed", oomKilledTemplates),
   ("image_pull_failure", imagePullFailureTemplates), ("probe_failure", probeFailureTemplates),
   ("peer_starvation", rethPeerStarvationTemplates),
   ("sync_stalled", rethSyncStalledTemplates), ("rpc_degraded", rethRpcDegradedTemplates)]

/-- The hypothesis for signatures that no template knows. -/
def unknownHypothesis : Hypothesis :=
  { hypothesisId := "h_unknown", candidateCause := "unknown", recommendedAction := "escalate",
    priorConfidence := 0.50 }

/-- `_TEMPLATES_BY_SIGNATURE.get(sig)`, where `sig` can be a key at all. -/
def templatesFor (signature : Json) : Except PyError (List Hypothesis) :=
  match signature with
  | .str name => .ok ((templatesBySignature.lookup name).getD [])
  | .arr _ | .obj _ => typeError ("unhashable type: '" ++ typeName signature ++ "'")
  | _ => .ok []

def addNew (found new : List Hypothesis) : List Hypothesis :=
  new.foldl (fun found hypothesis =>
    if found.any (·.hypothesisId == hypothesis.hypothesisId) then found
    else found ++ [hypothesis]) found

def chosenTemplates (signatures : List Json) : Except PyError (List Hypothesis) := do
  let found ← signatures.foldlM (fun found signature => do
    let templates ← templatesFor signature
    return addNew found templates) []
  return if found.isEmpty then [unknownHypothesis] else found

/-- The members of an event in the alert store that are read; the age is counted
from its reception. -/
structure AlertEvent where
  alertId : String
  eventCategory : String
  action : String
  ageSeconds : Option ℚ

/-- The members of a service's context that are read. -/
structure ServiceContext where
  lastDecisionType : Option String
  successRate : Json

/-- What the stores answer: the newest events, the context of the service and the
number of its upstream dependencies, each where there is such a store. -/
structure Stores where
  alertEvents : Option (List AlertEvent)
  serviceContext : Option (Option ServiceContext)
  upstreamDependencies : Option Nat

def AlertEvent.within (event : AlertEvent) (seconds : Int) : Bool :=
  event.ageSeconds.any fun age => decide (age ≤ (seconds : ℚ))

variable (stores : Stores) (trigger : Trigger)

def checkRecentDeploy (withinSeconds : Int) :
    PredicateResult × Option String :=
  match stores.alertEvents with
  | none =>
    if truthy (trigger.context "recent_deploy_within_window") then
      (.supported, some "signal.recent_deploy_within_window=true")
    else (.unknown, none)
  | some events =>
    let deploy := events.find? fun event =>
      (["deploy", "deployment", "rollout"].contains event.eventCategory ||
        event.action == "deploy") && event.within withinSeconds
    match deploy, asNumber? (trigger.context "minutes_since_flag_change") with
    | some event, _ => (.supported, some ("alert:" ++ event.alertId))
    | none, some minutes =>
      if (minutes.exact.mul (.finite 60)).le (.finite withinSeconds) then
        (.supported, some ("trigger.minutes_since_flag_change=" ++
          pyStr (trigger.context "minutes_since_flag_change")))
      else (.disconfirmed, none)
    | none, none => (.disconfirmed, none)

def checkConfigChange (withinSeconds : Int) :
    PredicateResult × Option String :=
  match stores.alertEvents with
  | none =>
    if truthy (trigger.context "config_change_within_window") then
      (.supported, some "signal.config_change_within_window=true")
    else (.unknown, none)
  | some events =>
    match events.find? fun event =>
      ["configmap_change", "secret_change"].contains event.eventCategory &&
        event.within withinSeconds with
    | some event => (.supported, some ("alert:" ++ event.alertId))
    | none => (.disconfirmed, none)

def checkPastSuccess (actionClass : String) :
    PredicateResult × Option String :=
  match stores.serviceContext with
  | none | some none => (.unknown, none)
  | some (some context) =>
    match asNumber? context.successRate with
    | none => (.unknown, none)
    | some rate =>
      if context.lastDecisionType = some actionClass ∧ Binary64.le 0.5 rate.exact then
        (.supported, some ("context.last_decision_type=" ++ actionClass ++ " @ rate=" ++
          pyStr context.successRate))
      else if rate.exact.lt 0.3 then
        (.disconfirmed, some ("context.service.success_rate=" ++ pyStr context.successRate))
      else (.unknown, none)

def checkUpstreamDegraded :
    PredicateResult × Option String :=
  match stores.upstreamDependencies with
  | none => (.unknown, none)
  | some count =>
    if !truthy (trigger.context "deployment_name") || !truthy (trigger.context "namespace") then
      (.unknown, none)
    else if 0 < count then (.supported, some ("graph.upstream_deps=" ++ toString count))
    else (.disconfirmed, none)

def checkMultiServicePullFailure :
    Except PyError (PredicateResult × Option String) := do
  let correlation ← membersOf (pyOr (getOr trigger.relatedContext "correlation" (.obj []))
    (.obj []))
  return if getOr correlation "type" .null == .str "blast_wave" then
    (.supported, some "correlation.type=blast_wave")
  else (.disconfirmed, none)

def testPredicate :
    PredicateKind → Except PyError (PredicateResult × Option String)
  | .recentDeploy within => .ok (checkRecentDeploy stores trigger within)
  | .noRecentDeploy within =>
    match checkRecentDeploy stores trigger within with
    | (.supported, ref) => .ok (.disconfirmed, ref)
    | (.disconfirmed, ref) => .ok (.supported, ref)
    | (.unknown, ref) => .ok (.unknown, ref)
  | .configChange within => .ok (checkConfigChange stores trigger within)
  | .pastRollbackSuccess => .ok (checkPastSuccess stores "rollback_deployment")
  | .pastScaleSuccess => .ok (checkPastSuccess stores "scale_deployment")
  | .recoveredFromRestart => .ok (checkPastSuccess stores "restart_deployment")
  | .upstreamDegraded => .ok (checkUpstreamDegraded stores trigger)
  | .multiServicePullFailure => checkMultiServicePullFailure trigger
  | .ofNode _ | .rootCauseCandidate => .ok (.unknown, none)

/-- One predicate of `_evaluate`: its result goes into the predicate and into the
evidence. -/
def evaluatePredicate (hypothesis : Hypothesis)
    (predicate : FalsificationPredicate) : Except PyError Hypothesis := do
  let (result, ref) ← testPredicate stores trigger predicate.kind
  let tested := { hypothesis with
    predicates := hypothesis.predicates ++ [{ predicate with result := some result }] }
  return match result with
    | .supported => { tested with
        supportingEvidence := tested.supportingEvidence ++
          [predicate.kind.name ++ ": " ++ ref.getD "matched"] }
    | .disconfirmed => { tested with
        disconfirmingEvidence := tested.disconfirmingEvidence ++
          [predicate.kind.name ++ ": " ++ ref.getD "not matched"] }
    | .unknown => tested

def evaluate (hypothesis : Hypothesis) :
    Except PyError Hypothesis :=
  hypothesis.predicates.foldlM (evaluatePredicate stores trigger)
    { hypothesis with predicates := [] }

/-- One of the causes that a report ranks. -/
structure RootCauseCandidate where
  rank : Int
  rootCause : String
  confidence : Binary64
  supportingTools : List String

/-- `tuple(str(item) for item in value or [])`. -/
def textsOf (value : Json) : Except PyError (List String) := do
  let items ← pyList (pyOr value (.arr []))
  return items.map pyStr

variable (reading : TextReading)

/-- `float(item.get("confidence") or 0.0)`, and zero where that fails. -/
def candidateConfidence (item : Dict) : Except PyError Binary64 :=
  match pyFloat reading (pyOr (getOr item "confidence" .null) (.float false 0 0)) with
  | .ok x => .ok x
  | .error e => if e.caughtBy [.typeError, .valueError] then .ok (.finite 0) else .error e

def candidateRank (item : Dict) (index : Nat) : Int :=
  match getOr item "rank" .null with
  | .int n => if 0 < n then n else index
  | .bool true => 1
  | _ => index

def candidateOf (entry : Json × Nat) :
    Except PyError (Option RootCauseCandidate) :=
  match entry.1 with
  | .obj item =>
    if !truthyAt item "root_cause" then .ok none
    else do
      let confidence ← candidateConfidence reading item
      let _ ← textsOf (getOr item "matched_patterns" .null)
      let supportingTools ← textsOf (getOr item "supporting_tools" .null)
      return some {
        rank := candidateRank item (entry.2 + 1)
        rootCause := pyStr (getOr item "root_cause" .null)
        confidence := Binary64.greatest 0.0 (confidence.least 1.0)
        supportingTools }
  | _ => .ok none

/-- `_investigation_root_cause_candidates`. -/
def rootCauseCandidates (report : Json) :
    Except PyError (List RootCauseCandidate) :=
  match report with
  | .obj members =>
    match getOr members "root_cause_candidates" .null with
    | .arr entries => do
      let candidates ← entries.zipIdx.mapM (candidateOf reading)
      return (candidates.filterMap id).insertionSort fun a b => a.rank ≤ b.rank
    | _ => .ok []
  | _ => .ok []

def rcaActionByCause : List (String × String) :=
  [("incorrect_image_reference", "rollback_deployment"),
   ("image_pull_failure", "rollback_deployment"),
   ("invalid_image_command", "rollback_deployment"),
   ("oom_killed", "patch_resources"),
   ("insufficient_resources", "patch_resources"),
   ("crash_loop_backoff", "escalate"),
   ("liveness_probe_failed", "escalate"),
   ("readiness_probe_failed", "escalate"),
   ("missing_secret_binding", "escalate"),
   ("missing_configmap", "escalate"),
   ("missing_service_account", "escalate"),
   ("service_selector_mismatch", "escalate"),
   ("service_port_mismatch", "escalate"),
   ("dns_resolution_failure", "escalate"),
   ("connection_refused", "escalate"),
   ("pod_network_delay", "escalate"),
   ("persistent_volume_claim_pending", "escalate")]

def rcaSupportAliases : List (String × List String) :=
  [("incorrect_image_reference", ["bad_image_tag", "image_pull_failure"]),
   ("image_pull_failure", ["bad_image_tag", "registry_outage"]),
   ("invalid_image_command", ["bad_image_tag", "recent_deploy"]),
   ("oom_killed", ["memory_undersize", "recent_deploy"]),
   ("insufficient_resources", ["memory_undersize"]),
   ("crash_loop_backoff", ["recent_deploy", "config_change", "transient"]),
   ("liveness_probe_failed", ["slow_startup", "upstream_outage"]),
   ("readiness_probe_failed", ["slow_startup", "upstream_outage"])]

namespace RootCauseCandidate

variable (candidate : RootCauseCandidate)

/-- `_candidate_supports_hypothesis`. -/
def supports (cause : String) : Bool :=
  cause == candidate.rootCause ||
    ((rcaSupportAliases.lookup candidate.rootCause).getD []).contains cause

/-- `f"{confidence:.3f}"`. -/
def confidenceText : String :=
  match candidate.confidence with
  | .finite x =>
    let thousandths := (Binary64.nearestInt (x * 1000)).natAbs
    toString (thousandths / 1000) ++ "." ++ padded 3 (thousandths % 1000)
  | _ => "nan"

/-- `_candidate_evidence_ref`. -/
def evidenceRef : String :=
  let tools := if candidate.supportingTools.isEmpty then "none"
    else ",".intercalate candidate.supportingTools
  "investigation.root_cause_candidates[" ++ toString candidate.rank ++ "]=" ++
    candidate.rootCause ++ " confidence=" ++ candidate.confidenceText ++ " supporting_tools=" ++
    tools

def evidence : String := PredicateKind.rootCauseCandidate.name ++ ": " ++ candidate.evidenceRef

/-- `_candidate_weight`. -/
def weight : Binary64 :=
  let bonus : Binary64 := if candidate.rank = 1 then 0.4 else if candidate.rank = 2 then 0.2
    else if candidate.rank = 3 then 0.1 else 0.0
  (Binary64.add 1.0 candidate.confidence).add bonus

end RootCauseCandidate

/-- `c.lower() if c.isalnum() else "_"`: the letters and digits, in lower case. -/
abbrev AlnumTable := Char → Option (List Char)

variable (table : AlnumTable)

def canonicalId (value : String) : String :=
  let spelled := value.toList.flatMap fun c => (table c).getD ['_']
  let stripped := ((spelled.dropWhile (· == '_')).reverse.dropWhile (· == '_')).reverse
  if stripped.isEmpty then "unknown" else String.ofList stripped

def rcaHypothesis (candidate : RootCauseCandidate) : Hypothesis where
  hypothesisId := "h_rca_" ++ canonicalId table candidate.rootCause
  candidateCause := candidate.rootCause
  recommendedAction := (rcaActionByCause.lookup candidate.rootCause).getD "escalate"
  priorConfidence := Binary64.greatest 0.35 (candidate.confidence.least 0.85)
  predicates := [⟨.rootCauseCandidate, candidate.weight, some .supported⟩]
  supportingEvidence := [candidate.evidence]

/-- Write a line of evidence down, once. -/
def noted (lines : List String) (line : String) : List String :=
  if lines.contains line then lines else lines ++ [line]

variable (candidates : List RootCauseCandidate)

def markedBy (hypothesis : Hypothesis) : Hypothesis :=
  match (candidates.take 3).find? (·.supports hypothesis.candidateCause), candidates.head? with
  | some best, _ => { hypothesis with
      predicates := hypothesis.predicates ++
        [{ kind := .rootCauseCandidate, weight := best.weight, result := some .supported }]
      supportingEvidence := noted hypothesis.supportingEvidence best.evidence }
  | none, some top =>
    if Binary64.le 0.7 top.confidence &&
        !(["unknown", "transient"].contains hypothesis.candidateCause) then
      { hypothesis with
        predicates := hypothesis.predicates ++
          [{ kind := .rootCauseCandidate, weight := Binary64.least 0.8 top.confidence,
             result := some .disconfirmed }]
        disconfirmingEvidence := noted hypothesis.disconfirmingEvidence top.evidence }
    else hypothesis
  | none, none => hypothesis

/-- `_apply_investigation_report`, on the candidates. -/
def applyInvestigationReport (hypotheses : List Hypothesis) : List Hypothesis :=
  (addNew hypotheses ((candidates.take 3).map (rcaHypothesis table))).map (markedBy candidates)

def weightOf (hypothesis : Hypothesis) (result : PredicateResult) : Binary64 :=
  ((hypothesis.predicates.filter fun predicate =>
    predicate.result == some result && predicate.kind != .rootCauseCandidate).map
      (·.weight)).foldl Binary64.add (.finite 0)

def posterior (hypothesis : Hypothesis) : Binary64 :=
  let adjusted := hypothesis.priorConfidence.mul
    ((Binary64.add 1.0 (Binary64.mul 0.2 (weightOf hypothesis .supported))).sub
      (Binary64.mul 0.3 (weightOf hypothesis .disconfirmed)))
  Binary64.greatest 0.05 ((adjusted.roundTo 3).least 0.95)

/-- `hypothesis.to_dict()`, the members that the decision reads. -/
def ranked (hypothesis : Hypothesis) : RankedHypothesis where
  hypothesisId := hypothesis.hypothesisId
  recommendedAction := hypothesis.recommendedAction
  posteriorConfidence := (posterior hypothesis).roundTo 3
  supportingEvidence := hypothesis.supportingEvidence
  disconfirmingEvidence := hypothesis.disconfirmingEvidence

/-- The order of the ranking. -/
def surer (a b : Hypothesis) : Prop := (posterior b).le (posterior a) = true

instance : DecidableRel surer := fun _ _ => inferInstanceAs (Decidable ((_ : Bool) = true))

/-- The engine: its stores, and how it reads texts. -/
structure Engine where
  reading : TextReading
  table : AlnumTable
  stores : Stores

def Engine.templates (engine : Engine) (trigger : Trigger) : Except PyError (List Hypothesis) := do
  let signatures ← pyList (getOr trigger.relatedContext "error_signatures" (.arr []))
  let chosen ← chosenTemplates signatures
  chosen.mapM (evaluate engine.stores trigger)

/-- `HypothesisEngine.generate`, without an evidence pack. -/
def Engine.generate (engine : Engine) (trigger : Trigger) (report : Json) :
    Except PyError (List Hypothesis) := do
  let templates ← engine.templates trigger
  let candidates ← rootCauseCandidates engine.reading report
  return (applyInvestigationReport engine.table candidates templates).insertionSort surer

end OrbitalMesh.Decision
