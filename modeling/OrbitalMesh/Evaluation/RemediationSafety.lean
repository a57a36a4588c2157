import OrbitalMesh.Base.Rounding
import OrbitalMesh.Decision.Trigger
import OrbitalMesh.Evaluation.AutonomyPolicy

/-!
# The safety case of a remediation

`remediation_safety.py` scores a decision after every other gate has judged it.  Eight
components are weighted into a score, and a list of hard stops is drawn up; the case passes
where there is no hard stop and the score reaches the threshold.  Scores are rationals here,
with the decimal fractions of the source.
-/

namespace OrbitalMesh.Evaluation

open OrbitalMesh.Decision

/-- What a state store answers about success rates.  There may be no store, or one that has no
`get_historical_success_rate`. -/
inductive StateStore where
  | missing
  | silent
  | rates (historicalSuccessRate : String → String → Except PyError (Option ℚ))

/-- The arguments of `evaluate_remediation_safety`. -/
structure SafetyRequest where
  trigger : Trigger
  decision : ContractDecision
  stateStore : StateStore := .missing
  priorBlockingReasons : List String := []
  promptfooPassed : Bool := true
  schemaPassed : Bool := true
  policyPassed : Bool := true
  readinessPassed : Bool := true
  threshold : ℚ := 72 / 100

inductive SafetyVerdict where
  | pass
  | needsMoreEvidence
  | humanReview
deriving DecidableEq

/-- `components`. -/
structure Components where
  policy : ℚ
  quality : ℚ
  readiness : ℚ
  evidence : ℚ
  action : ℚ
  blastRadius : ℚ
  history : ℚ
  recovery : ℚ

structure RemediationSafetyCase where
  score : ℚ
  threshold : ℚ
  verdict : SafetyVerdict
  passed : Bool
  components : Components
  hardStops : List String
  warnings : List String
  evidenceRefs : List String

def auditActions : List String := ["record_no_action", "open_incident"]

def mutatingDecisions : List String :=
  ["reduce_rollout", "disable_flag", "investigate_and_patch", "rollback_deployment",
   "restart_deployment", "restart_pod", "scale_deployment", "cordon_node", "drain_node",
   "argocd_sync", "argocd_rollback", "restart_systemd_service"]

def severeSignatures : List String :=
  ["disk_pressure", "jwt_missing", "jwt_secret_missing", "rpc_exposed", "authrpc_exposed",
   "engine_api_unreachable", "consensus_disconnect"]

def protectedTiers : List String := ["strategic", "platinum"]

def clamp (value : ℚ) : ℚ := max 0 (min value 1)

def boolScore (value : Bool) : ℚ := if value then 1 else 0

/-- `round(value, 3)`. -/
def round3 (value : ℚ) : ℚ := Binary64.nearestInt (value * 1000) / 1000

def sourceEventIds (d : ContractDecision) : List String :=
  listedTexts (some (pyOr (getOr d.reasoning "source_event_ids" .null)
    (pyOr (getOr d.reasoning "evidence_event_ids" .null) (.arr []))))

def missingPenalty : Json → ℚ
  | .arr missing => min (25 / 100) (5 / 100 * missing.length)
  | _ => 0

def packScore : Option Json → Except PyError ℚ
  | some (.obj []) => .ok 0
  | some (.obj pack) => do
    let artifact ← membersOf (getOr pack "evidence_pack_artifact" (.obj []))
    return 20 / 100 - missingPenalty (getOr artifact "missing_fields" (.arr []))
  | _ => .ok 0

/-- `_first_dict(evidence_pack, source_signal)`. -/
def degradedSignal (trigger : Trigger) (d : ContractDecision) : Dict :=
  (((d.reasoning.get? "evidence_pack").bind Json.asObj?).or
    ((trigger.context? "source_signal").bind Json.asObj?)).getD []

def signalScore (trigger : Trigger) (d : ContractDecision) : ℚ :=
  if trigger.triggerType = "reth_node_degraded" then
    4 / 100 * (["execution", "consensus", "storage", "rpc", "node"].filter fun field =>
      (((degradedSignal trigger d).get? field).bind Json.asObj?).any fun part =>
        !part.isEmpty).length
  else 0

def listsEvidence (d : ContractDecision) : Bool :=
  match d.reasoning.get? "evidence" with
  | some (.arr evidence) => 2 ≤ evidence.length
  | _ => false

def evidenceScore (trigger : Trigger) (d : ContractDecision) : Except PyError ℚ := do
  let packed ← packScore (d.reasoning.get? "evidence_pack")
  return clamp (20 / 100 + (if trigger.metrics.isEmpty then 0 else 15 / 100) +
    (if trigger.relatedContext.isEmpty then 0 else 15 / 100) +
    (if listsEvidence d then 20 / 100 else 0) + packed +
    (if (sourceEventIds d).isEmpty then 0 else 10 / 100) + signalScore trigger d)

/-- `str(decision.execution_plan.get("action") or "")`. -/
def plannedAction (d : ContractDecision) : String := textOrEmpty d.executionPlan "action"

def confidenceScore (confidence : Json) : Except PyError ℚ :=
  match asNumber? confidence with
  | some number =>
    .ok (if (0.85 : Binary64).le number.exact then 20 / 100
      else if (0.75 : Binary64).le number.exact then 10 / 100
      else -(15 / 100))
  | none =>
    typeError ("'>=' not supported between instances of '" ++ typeName confidence ++
      "' and 'float'")

def riskLevel (d : ContractDecision) : Option Json := d.risk.get? "level"

def riskScore (level : Option Json) : ℚ :=
  if level = some (.str "low") then 10 / 100
  else if level = some (.str "high") then -(25 / 100)
  else 0

def actionScore (d : ContractDecision) : Except PyError ℚ :=
  if auditActions.contains (plannedAction d) then .ok 1
  else do
    let sure ← confidenceScore d.confidence
    let reversible := truthyAt d.executionPlan "rollback_plan"
    return clamp (40 / 100 + (if reversible then 20 / 100 else 0) + sure +
      riskScore (riskLevel d) -
      (if mutatingDecisions.contains d.decisionType && !reversible then 25 / 100 else 0))

def protectedTier (trigger : Trigger) : Except PyError Bool :=
  match getOr trigger.segment "customer_tier" .null with
  | .str tier => .ok (protectedTiers.contains tier)
  | .arr _ => typeError "unhashable type: 'list'"
  | .obj _ => typeError "unhashable type: 'dict'"
  | _ => .ok false

def multiService (d : ContractDecision) : Bool :=
  "multi_".toList.isPrefixOf (textOrEmpty d.risk "blast_radius").toList

def blastRadiusScore (trigger : Trigger) (d : ContractDecision) : Except PyError ℚ := do
  let guarded ← protectedTier trigger
  return clamp (1 - (if multiService d then 45 / 100 else 0) -
    (if riskLevel d = some (.str "high") then 30 / 100 else 0) -
    (if guarded then 25 / 100 else 0) -
    (if ["approval_required", "escalated"].contains d.autonomyTier then 15 / 100 else 0))

def historyScore (store : StateStore) (decisionType service : String) : ℚ :=
  match store with
  | .rates historicalSuccessRate =>
    match historicalSuccessRate decisionType service with
    | .ok (some rate) => clamp rate
    | .ok none => 58 / 100
    | .error _ => 50 / 100
  | _ => 58 / 100

def recoveryScore (trigger : Trigger) (d : ContractDecision) : ℚ :=
  if auditActions.contains (plannedAction d) then 1
  else
    match pyOr (trigger.context "post_action_observations")
        (getOr d.reasoning "post_action_observations" .null) with
    | .obj (_ :: _) => 85 / 100
    | _ => if truthyAt d.expectedOutcome "target_metrics" then 65 / 100 else 45 / 100

def SafetyRequest.components (request : SafetyRequest) : Except PyError Components := do
  let evidence ← evidenceScore request.trigger request.decision
  let action ← actionScore request.decision
  let blastRadius ← blastRadiusScore request.trigger request.decision
  return {
    policy := boolScore (request.schemaPassed && request.policyPassed)
    quality := boolScore request.promptfooPassed
    readiness := boolScore request.readinessPassed
    evidence
    action
    blastRadius
    history := historyScore request.stateStore request.decision.decisionType
      request.trigger.service
    recovery := recoveryScore request.trigger request.decision }

def Components.weighted (c : Components) : ℚ :=
  c.policy * (18 / 100) + c.quality * (12 / 100) + c.readiness * (14 / 100) +
    c.evidence * (18 / 100) + c.action * (14 / 100) + c.blastRadius * (10 / 100) +
    c.history * (8 / 100) + c.recovery * (6 / 100)

def Components.rounded (c : Components) : Components where
  policy := round3 c.policy
  quality := round3 c.quality
  readiness := round3 c.readiness
  evidence := round3 c.evidence
  action := round3 c.action
  blastRadius := round3 c.blastRadius
  history := round3 c.history
  recovery := round3 c.recovery

def signaturesOf (source : Dict) : List String :=
  listedTexts (match getOr source "error_signatures" .null with
    | .null => ((source.get? "logs").bind Json.asObj?).bind fun logs =>
      logs.get? "error_signatures"
    | raw => some raw)

def errorSignatures (trigger : Trigger) (d : ContractDecision) : List String :=
  signaturesOf trigger.relatedContext ++
    signaturesOf (((d.reasoning.get? "evidence_pack").bind Json.asObj?).getD [])

def severe (trigger : Trigger) (d : ContractDecision) : Bool :=
  (errorSignatures trigger d).any severeSignatures.contains

/-- `_hard_stops`.  The prior blocking reasons are an argument that nothing reads. -/
def hardStops (request : SafetyRequest) (_priorBlockingReasons : List String) (guarded : Bool)
    (c : Components) : List String :=
  let d := request.decision
  let autonomous := d.autonomyTier == "autonomous"
  let mutating := mutatingDecisions.contains d.decisionType
  listedWhere
    [(!request.schemaPassed, "schema validation failed"),
     (!request.policyPassed, "policy validation failed"),
     (!request.readinessPassed, "execution readiness failed"),
     (autonomous && riskLevel d == some (.str "high"),
        "autonomous high-risk action is forbidden"),
     (multiService d && autonomous, "autonomous multi-service action is forbidden"),
     (guarded && autonomous, "autonomous protected-tier action is forbidden"),
     (severe request.trigger d && d.decisionType != "escalate",
        "severe signature requires escalation"),
     (mutating && decide (c.evidence < 55 / 100), "mutating action lacks sufficient evidence"),
     (mutating && decide (c.history < 35 / 100),
        "historical success rate is too weak for autonomous remediation")]

/-- `_warnings`. -/
def caseWarnings (request : SafetyRequest) (c : Components) : List String :=
  listedWhere
    [(decide (c.history < 60 / 100), "historical support is weak or unavailable"),
     (decide (c.recovery < 60 / 100), "post-action recovery evidence is weak"),
     (truthyAt request.trigger.relatedContext "conflicting_signals",
        "conflicting signals are present"),
     ((sourceEventIds request.decision).isEmpty,
        "no source run event ids available for analysis provenance"),
     (match request.stateStore with
        | .missing => true
        | _ => false, "state store unavailable for historical prior")]

def evidenceRefs (trigger : Trigger) (d : ContractDecision) : List String :=
  ([trigger.triggerId, d.decisionId] ++ sourceEventIds d).filter fun ref => ref != ""

def evaluateRemediationSafety (request : SafetyRequest) :
    Except PyError RemediationSafetyCase := do
  let components ← request.components
  let guarded ← protectedTier request.trigger
  let score := round3 components.weighted
  let stops := hardStops request request.priorBlockingReasons guarded components
  let verdict : SafetyVerdict :=
    if stops ≠ [] then .humanReview
    else if score < request.threshold then .needsMoreEvidence
    else .pass
  return {
    score
    threshold := request.threshold
    verdict
    passed := verdict == .pass
    components := components.rounded
    hardStops := stops
    warnings := caseWarnings request components
    evidenceRefs := evidenceRefs request.trigger request.decision }

def Raised (level level' : Option Json) : Prop :=
  level = level' ∨
    (level, level') ∈ [("low", "medium"), ("low", "high"), ("medium", "high")].map fun pair =>
      (some (Json.str pair.1), some (Json.str pair.2))

/-- The reasoning is the same, or the artifact of its evidence pack lists more missing
fields. -/
inductive MoreMissing (reasoning : Dict) : Dict → Prop
  | same : MoreMissing reasoning reasoning
  | added {pack artifact : Dict} {missing missing' : List Json}
      (hpack : reasoning.get? "evidence_pack" = some (.obj pack)) (hne : pack ≠ [])
      (hartifact : getOr pack "evidence_pack_artifact" (.obj []) = .obj artifact)
      (hmissing : getOr artifact "missing_fields" (.arr []) = .arr missing)
      (hmore : missing.Sublist missing') :
      MoreMissing reasoning (reasoning.set "evidence_pack"
        (.obj (pack.set "evidence_pack_artifact"
          (.obj (artifact.set "missing_fields" (.arr missing'))))))

/-- The second request has some checks failed, the risk raised, and fields missing, over the
first one. -/
structure Worse (request request' : SafetyRequest) : Prop where
  schema : request'.schemaPassed = true → request.schemaPassed = true
  policy : request'.policyPassed = true → request.policyPassed = true
  promptfoo : request'.promptfooPassed = true → request.promptfooPassed = true
  readiness : request'.readinessPassed = true → request.readinessPassed = true
  level : Raised (riskLevel request.decision) (riskLevel request'.decision)
  risk : Dict.AgreeOff ["level"] request.decision.risk request'.decision.risk
  reasoning : MoreMissing request.decision.reasoning request'.decision.reasoning
  decision : request'.decision =
    { request.decision with
      risk := request'.decision.risk, reasoning := request'.decision.reasoning }
  rest : request' =
    { request with
      decision := request'.decision
      schemaPassed := request'.schemaPassed
      policyPassed := request'.policyPassed
      promptfooPassed := request'.promptfooPassed
      readinessPassed := request'.readinessPassed }

variable {x y : ℚ} {c : Components}

theorem round3_mono (h : x ≤ y) : round3 x ≤ round3 y := by
  have hmul : x * 1000 ≤ y * 1000 := by linarith
  have hint : Binary64.nearestInt (x * 1000) ≤ Binary64.nearestInt (y * 1000) :=
    Binary64.nearestInt_mono hmul
  unfold round3
  gcongr

theorem clamp_mono (h : x ≤ y) : clamp x ≤ clamp y :=
  max_le_max le_rfl (min_le_min h le_rfl)

theorem boolScore_mono {a b : Bool} (h : b = true → a = true) : boolScore b ≤ boolScore a := by
  cases a <;> cases b <;> simp_all [boolScore]

theorem set_ne_nil (d : Dict) (key : String) (value : Json) : d.set key value ≠ [] := by
  intro h
  have hget := Dict.get?_set_self d key value
  rw [h] at hget
  cases hget

theorem packScore_of_ne {pack : Dict} (h : pack ≠ []) :
    packScore (some (.obj pack)) = (do
      let artifact ← membersOf (getOr pack "evidence_pack_artifact" (.obj []))
      return 20 / 100 - missingPenalty (getOr artifact "missing_fields" (.arr []))) := by
  cases pack with
  | nil => exact absurd rfl h
  | cons member rest => rfl

theorem missingPenalty_mono {missing missing' : List Json} (h : missing.Sublist missing') :
    missingPenalty (.arr missing) ≤ missingPenalty (.arr missing') := by
  have hlength : (missing.length : ℚ) ≤ missing'.length := by exact_mod_cast h.length_le
  apply min_le_min le_rfl
  linarith

namespace MoreMissing

variable {reasoning reasoning' : Dict} (h : MoreMissing reasoning reasoning')
include h

theorem get? {key : String} (hkey : key ≠ "evidence_pack") :
    reasoning'.get? key = reasoning.get? key := by
  cases h with
  | same => rfl
  | added => rw [Dict.get?_set_of_ne _ _ hkey]

theorem packScore_le {score score' : ℚ}
    (hscore : packScore (reasoning.get? "evidence_pack") = .ok score)
    (hscore' : packScore (reasoning'.get? "evidence_pack") = .ok score') : score' ≤ score := by
  cases h with
  | same =>
    rw [hscore] at hscore'
    exact (Except.ok.inj hscore').ge
  | added hpack hne hartifact hmissing hmore =>
    rw [hpack, packScore_of_ne hne, hartifact] at hscore
    rw [Dict.get?_set_self, packScore_of_ne (set_ne_nil _ _ _), getOr, Dict.get?_set_self]
      at hscore'
    simp only [membersOf, ok_bind, hmissing] at hscore
    simp only [membersOf, ok_bind, Option.getD_some, getOr, Dict.get?_set_self] at hscore'
    obtain rfl := Except.ok.inj hscore
    obtain rfl := Except.ok.inj hscore'
    have := missingPenalty_mono hmore
    linarith

theorem pack :
    reasoning'.get? "evidence_pack" = reasoning.get? "evidence_pack" ∨
      ∃ pack pack' : Dict, reasoning.get? "evidence_pack" = some (.obj pack) ∧
        reasoning'.get? "evidence_pack" = some (.obj pack') ∧
        ∀ key, key ≠ "evidence_pack_artifact" → pack'.get? key = pack.get? key := by
  cases h with
  | same => exact .inl rfl
  | added hpack =>
    refine .inr ⟨_, _, hpack, Dict.get?_set_self _ _ _, ?_⟩
    intro key hkey
    exact Dict.get?_set_of_ne _ _ hkey

theorem signaturesOf :
    signaturesOf (((reasoning'.get? "evidence_pack").bind Json.asObj?).getD []) =
      signaturesOf (((reasoning.get? "evidence_pack").bind Json.asObj?).getD []) := by
  obtain heq | ⟨pack, pack', hpack, hpack', hsame⟩ := h.pack
  · rw [heq]
  · have herrors := hsame "error_signatures" (by decide)
    have hlogs := hsame "logs" (by decide)
    rw [hpack, hpack']
    simp only [Option.bind_some, Json.asObj?, Option.getD_some, Evaluation.signaturesOf, getOr,
      herrors, hlogs]

end MoreMissing

namespace Worse

variable {request request' : SafetyRequest} (h : Worse request request')
include h

theorem trigger : request'.trigger = request.trigger := by rw [h.rest]

theorem stateStore : request'.stateStore = request.stateStore := by rw [h.rest]

theorem threshold : request'.threshold = request.threshold := by rw [h.rest]

theorem decisionType : request'.decision.decisionType = request.decision.decisionType := by
  rw [h.decision]

theorem autonomyTier : request'.decision.autonomyTier = request.decision.autonomyTier := by
  rw [h.decision]

theorem executionPlan : request'.decision.executionPlan = request.decision.executionPlan := by
  rw [h.decision]

theorem plannedAction : plannedAction request'.decision = plannedAction request.decision := by
  rw [Evaluation.plannedAction, h.executionPlan]
  rfl

theorem sourceEventIds : sourceEventIds request'.decision = sourceEventIds request.decision := by
  have hsource := h.reasoning.get? (by decide : "source_event_ids" ≠ _)
  have hevidence := h.reasoning.get? (by decide : "evidence_event_ids" ≠ _)
  simp only [Evaluation.sourceEventIds, getOr, hsource, hevidence]

theorem multiService : multiService request'.decision = multiService request.decision := by
  simp only [Evaluation.multiService, textOrEmpty, h.risk "blast_radius" (by decide)]

theorem severe :
    severe request'.trigger request'.decision = severe request.trigger request.decision := by
  rw [h.trigger]
  simp only [Evaluation.severe, errorSignatures, h.reasoning.signaturesOf]

theorem signalScore :
    signalScore request.trigger request'.decision =
      signalScore request.trigger request.decision := by
  have hfield : ∀ field ∈ ["execution", "consensus", "storage", "rpc", "node"],
      (degradedSignal request.trigger request'.decision).get? field =
        (degradedSignal request.trigger request.decision).get? field := by
    intro field hmem
    obtain heq | ⟨pack, pack', hpack, hpack', hsame⟩ := h.reasoning.pack
    · simp only [degradedSignal, heq]
    · have hne : field ≠ "evidence_pack_artifact" := by
        intro heq
        rw [heq] at hmem
        revert hmem
        decide
      simpa [degradedSignal, hpack, hpack', Json.asObj?] using hsame field hne
  have hfilter := List.filter_congr fun field hmem => congrArg
    (fun value : Option Json => (value.bind Json.asObj?).any fun part => !part.isEmpty)
    (hfield field hmem)
  simp only [Evaluation.signalScore]
  rw [hfilter]

theorem high (hhigh : riskLevel request.decision = some (.str "high")) :
    riskLevel request'.decision = some (.str "high") := by
  obtain heq | hmem := h.level
  · rw [← heq, hhigh]
  · rw [hhigh] at hmem
    simp at hmem

theorem riskScore_le :
    riskScore (riskLevel request'.decision) ≤ riskScore (riskLevel request.decision) := by
  obtain heq | hmem := h.level
  · rw [heq]
  · simp only [List.map_cons, List.map_nil, List.mem_cons, Prod.mk.injEq, List.not_mem_nil,
      or_false] at hmem
    obtain ⟨hlow, hmedium⟩ | ⟨hlow, hhigh⟩ | ⟨hmedium, hhigh⟩ := hmem
    · rw [hlow, hmedium]
      decide +kernel
    · rw [hlow, hhigh]
      decide +kernel
    · rw [hmedium, hhigh]
      decide +kernel

variable {score score' : ℚ}

theorem evidence_le (hscore : evidenceScore request.trigger request.decision = .ok score)
    (hscore' : evidenceScore request'.trigger request'.decision = .ok score') : score' ≤ score := by
  rw [h.trigger] at hscore'
  obtain ⟨packed, hpacked, hvalue⟩ := bind_ok hscore
  obtain ⟨packed', hpacked', hvalue'⟩ := bind_ok hscore'
  obtain rfl := Except.ok.inj hvalue
  obtain rfl := Except.ok.inj hvalue'
  have hpack := h.reasoning.packScore_le hpacked hpacked'
  have hlists : listsEvidence request'.decision = listsEvidence request.decision := by
    rw [listsEvidence, h.reasoning.get? (by decide : "evidence" ≠ _)]
    rfl
  apply clamp_mono
  rw [h.sourceEventIds, h.signalScore, hlists]
  linarith

theorem action_le (hscore : actionScore request.decision = .ok score)
    (hscore' : actionScore request'.decision = .ok score') : score' ≤ score := by
  have hconfidence : request'.decision.confidence = request.decision.confidence := by
    rw [h.decision]
  unfold actionScore at hscore hscore'
  rw [h.plannedAction, h.executionPlan, h.decisionType, hconfidence] at hscore'
  split at hscore
  · next haudit =>
    rw [if_pos haudit] at hscore'
    exact ((Except.ok.inj hscore').symm.trans (Except.ok.inj hscore)).le
  · next haudit =>
    rw [if_neg haudit] at hscore'
    obtain ⟨sure, hsure, hvalue⟩ := bind_ok hscore
    obtain ⟨sure', hsure', hvalue'⟩ := bind_ok hscore'
    rw [hsure] at hsure'
    obtain rfl := Except.ok.inj hsure'
    obtain rfl := Except.ok.inj hvalue
    obtain rfl := Except.ok.inj hvalue'
    have hrisk := h.riskScore_le
    apply clamp_mono
    linarith

theorem blastRadius_le (hscore : blastRadiusScore request.trigger request.decision = .ok score)
    (hscore' : blastRadiusScore request'.trigger request'.decision = .ok score') :
    score' ≤ score := by
  rw [h.trigger] at hscore'
  obtain ⟨guarded, hguarded, hvalue⟩ := bind_ok hscore
  obtain ⟨guarded', hguarded', hvalue'⟩ := bind_ok hscore'
  rw [hguarded] at hguarded'
  obtain rfl := Except.ok.inj hguarded'
  obtain rfl := Except.ok.inj hvalue
  obtain rfl := Except.ok.inj hvalue'
  have hrisk : (if riskLevel request.decision = some (.str "high") then (30 / 100 : ℚ) else 0) ≤
      if riskLevel request'.decision = some (.str "high") then 30 / 100 else 0 := by
    by_cases hhigh : riskLevel request.decision = some (.str "high")
    · rw [if_pos hhigh, if_pos (h.high hhigh)]
    · rw [if_neg hhigh]
      split <;> norm_num
  rw [h.multiService, h.autonomyTier]
  apply clamp_mono
  linarith

theorem recovery_eq :
    recoveryScore request'.trigger request'.decision =
      recoveryScore request.trigger request.decision := by
  have hobservations := h.reasoning.get? (by decide : "post_action_observations" ≠ _)
  have hexpected : request'.decision.expectedOutcome = request.decision.expectedOutcome := by
    rw [h.decision]
  rw [h.trigger]
  simp only [recoveryScore, h.plannedAction, getOr, hobservations, hexpected]

end Worse

variable {request : SafetyRequest}

theorem components_spec (h : request.components = .ok c) :
    evidenceScore request.trigger request.decision = .ok c.evidence ∧
      actionScore request.decision = .ok c.action ∧
      blastRadiusScore request.trigger request.decision = .ok c.blastRadius ∧
      c.policy = boolScore (request.schemaPassed && request.policyPassed) ∧
      c.quality = boolScore request.promptfooPassed ∧
      c.readiness = boolScore request.readinessPassed ∧
      c.history = historyScore request.stateStore request.decision.decisionType
        request.trigger.service ∧
      c.recovery = recoveryScore request.trigger request.decision := by
  simp only [SafetyRequest.components, Except.bind_ok_iff] at h
  obtain ⟨evidence, hevidence, action, haction, blastRadius, hblast, hvalue⟩ := h
  obtain rfl := Except.ok.inj hvalue
  exact ⟨hevidence, haction, hblast, rfl, rfl, rfl, rfl, rfl⟩

def StopsAt (request : SafetyRequest) (guarded : Bool) (evidence history : ℚ) : Prop :=
  (request.schemaPassed = false ∨ request.policyPassed = false ∨
      request.readinessPassed = false) ∨
    (request.decision.autonomyTier = "autonomous" ∧
      (riskLevel request.decision = some (.str "high") ∨ multiService request.decision = true ∨
        guarded = true)) ∨
    (severe request.trigger request.decision = true ∧
      request.decision.decisionType ≠ "escalate") ∨
    (request.decision.decisionType ∈ mutatingDecisions ∧
      (evidence < 55 / 100 ∨ history < 35 / 100))

theorem hardStops_ne_nil_iff (prior : List String) {guarded : Bool} :
    hardStops request prior guarded c ≠ [] ↔ StopsAt request guarded c.evidence c.history := by
  have hany : hardStops request prior guarded c ≠ [] ↔
      ∃ text, text ∈ hardStops request prior guarded c :=
    ⟨List.exists_mem_of_ne_nil _, fun ⟨_, hmem⟩ => List.ne_nil_of_mem hmem⟩
  rw [hany]
  simp only [hardStops, mem_listedWhere, List.mem_cons, Prod.mk.injEq, List.not_mem_nil, or_false,
    exists_or, exists_eq_right]
  simp only [StopsAt]
  grind

theorem evaluate_spec {case : RemediationSafetyCase}
    (h : evaluateRemediationSafety request = .ok case) :
    ∃ c guarded, request.components = .ok c ∧ protectedTier request.trigger = .ok guarded ∧
      case.score = round3 c.weighted ∧ (case.passed = true ↔ case.verdict = .pass) ∧
      (case.verdict = .pass ↔
        ¬ StopsAt request guarded c.evidence c.history ∧
          ¬ round3 c.weighted < request.threshold) := by
  obtain ⟨c, hc, h⟩ := bind_ok h
  obtain ⟨guarded, hguarded, h⟩ := bind_ok h
  obtain rfl := Except.ok.inj h
  refine ⟨c, guarded, hc, hguarded, rfl, by simp, ?_⟩
  rw [← hardStops_ne_nil_iff request.priorBlockingReasons]
  by_cases hstops : hardStops request request.priorBlockingReasons guarded c = []
  · by_cases hscore : round3 c.weighted < request.threshold <;> simp [hstops, hscore]
  · simp [hstops]

namespace Worse

variable {request request' : SafetyRequest} (h : Worse request request') {c c' : Components}
  (hc : request.components = .ok c) (hc' : request'.components = .ok c')
include h hc hc'

theorem weighted_le : c'.weighted ≤ c.weighted := by
  obtain ⟨hevidence, haction, hblast, hpolicy, hquality, hreadiness, hhistory, hrecovery⟩ :=
    components_spec hc
  obtain ⟨hevidence', haction', hblast', hpolicy', hquality', hreadiness', hhistory',
    hrecovery'⟩ := components_spec hc'
  have hevidenceLe := h.evidence_le hevidence hevidence'
  have hactionLe := h.action_le haction haction'
  have hblastLe := h.blastRadius_le hblast hblast'
  have hpolicyLe : c'.policy ≤ c.policy := by
    rw [hpolicy, hpolicy']
    apply boolScore_mono
    intro hboth
    rw [Bool.and_eq_true] at hboth ⊢
    exact ⟨h.schema hboth.1, h.policy hboth.2⟩
  have hqualityLe : c'.quality ≤ c.quality := by
    rw [hquality, hquality']
    exact boolScore_mono h.promptfoo
  have hreadinessLe : c'.readiness ≤ c.readiness := by
    rw [hreadiness, hreadiness']
    exact boolScore_mono h.readiness
  have hhistoryEq : c'.history = c.history := by
    rw [hhistory, hhistory', h.stateStore, h.decisionType, h.trigger]
  have hrecoveryEq : c'.recovery = c.recovery := by rw [hrecovery, hrecovery', h.recovery_eq]
  unfold Components.weighted
  linarith

theorem stopsAt {guarded : Bool} (hstops : StopsAt request guarded c.evidence c.history) :
    StopsAt request' guarded c'.evidence c'.history := by
  obtain ⟨hevidence, -, -, -, -, -, hhistory, -⟩ := components_spec hc
  obtain ⟨hevidence', -, -, -, -, -, hhistory', -⟩ := components_spec hc'
  have hevidenceLe := h.evidence_le hevidence hevidence'
  have hhistoryEq : c'.history = c.history := by
    rw [hhistory, hhistory', h.stateStore, h.decisionType, h.trigger]
  have hfailed : ∀ {a b : Bool}, (b = true → a = true) → a = false → b = false := by
    intro a b himp hfalse
    cases b with
    | false => rfl
    | true => rw [himp rfl] at hfalse; cases hfalse
  unfold StopsAt at hstops ⊢
  rw [h.autonomyTier, h.multiService, h.severe, h.decisionType, hhistoryEq]
  obtain hcheck | ⟨hautonomous, hreason⟩ | hsevere | ⟨hmutating, hweak⟩ := hstops
  · refine .inl ?_
    obtain hschema | hpolicy | hreadiness := hcheck
    · exact .inl (hfailed h.schema hschema)
    · exact .inr (.inl (hfailed h.policy hpolicy))
    · exact .inr (.inr (hfailed h.readiness hreadiness))
  · exact .inr (.inl ⟨hautonomous, hreason.imp h.high id⟩)
  · exact .inr (.inr (.inl hsevere))
  · exact .inr (.inr (.inr ⟨hmutating, hweak.imp (lt_of_le_of_lt hevidenceLe) id⟩))

end Worse

/-- Earlier blockers keep a case from passing, and a worse request neither scores more nor
passes where the first does not. -/
structure SafetyLaw (request : SafetyRequest) : Prop where
  honoured : request.priorBlockingReasons ≠ [] →
    ∀ case, evaluateRemediationSafety request = .ok case → case.passed = false
  monotone : ∀ request', Worse request request' → ∀ case case',
    evaluateRemediationSafety request = .ok case →
    evaluateRemediationSafety request' = .ok case' →
    case'.score ≤ case.score ∧ (case.verdict ≠ .pass → case'.verdict ≠ .pass)

theorem evaluate_monotone {request' : SafetyRequest} (h : Worse request request')
    {case case' : RemediationSafetyCase} (hcase : evaluateRemediationSafety request = .ok case)
    (hcase' : evaluateRemediationSafety request' = .ok case') :
    case'.score ≤ case.score ∧ (case.verdict ≠ .pass → case'.verdict ≠ .pass) := by
  obtain ⟨c, guarded, hc, hguarded, hscore, -, hpass⟩ := evaluate_spec hcase
  obtain ⟨c', guarded', hc', hguarded', hscore', -, hpass'⟩ := evaluate_spec hcase'
  rw [h.trigger, hguarded] at hguarded'
  obtain rfl := Except.ok.inj hguarded'
  have hle : round3 c'.weighted ≤ round3 c.weighted := round3_mono (h.weighted_le hc hc')
  refine ⟨by rw [hscore, hscore']; exact hle, ?_⟩
  intro hnot hpassed
  obtain ⟨hfree, hreached⟩ := hpass'.mp hpassed
  refine hnot (hpass.mpr ⟨fun hstops => hfree (h.stopsAt hc hc' hstops), ?_⟩)
  rw [h.threshold] at hreached
  intro hbelow
  exact hreached (lt_of_le_of_lt hle hbelow)

def StoppedAnyway (request : SafetyRequest) : Prop :=
  ∃ guarded evidence, protectedTier request.trigger = .ok guarded ∧
    evidenceScore request.trigger request.decision = .ok evidence ∧
    StopsAt request guarded evidence (historyScore request.stateStore
      request.decision.decisionType request.trigger.service)

def WeighedBelow (request : SafetyRequest) : Prop :=
  ∃ c, request.components = .ok c ∧ round3 c.weighted < request.threshold

def restartRequest (prior : List String) : SafetyRequest where
  trigger :=
    { triggerId := "trig"
      triggerType := "kubernetes_deployment_unhealthy"
      triggeredAt := "2026-05-08T00:00:00Z"
      environment := "production"
      service := "search"
      endpoint := "deployment/search"
      flagKey := none
      currentRolloutPct := none
      comparisonWindow := none
      segment := [("customer_tier", .str "standard")]
      metrics := [("observed_p95_latency_ms", .int 120)]
      relatedContext := [("post_action_observations", .obj [("10m", .obj [])])] }
  decision :=
    { decisionId := "dec"
      triggerId := "trig"
      summary := "restart"
      decisionType := "restart_deployment"
      autonomyTier := "autonomous"
      reasoning :=
        [("evidence", .arr [.str "unhealthy", .str "one namespace"]),
         ("source_event_ids", .arr [.str "evt"]),
         ("evidence_pack", .obj [("artifact_ref", .str "evidence")])]
      expectedOutcome := []
      risk := [("level", .str "low"), ("blast_radius", .str "single_deployment")]
      confidence := .int 1
      executionPlan := [("action", .str "restart_deployment"), ("rollback_plan", .str "undo")] }
  priorBlockingReasons := prior

def outcomeOf (request : SafetyRequest) : Option (SafetyVerdict × ℚ) :=
  (evaluateRemediationSafety request).toOption.map fun case => (case.verdict, case.score)

theorem outcomeOf_some {outcome : SafetyVerdict × ℚ} (h : outcomeOf request = some outcome) :
    ∃ case, evaluateRemediationSafety request = .ok case ∧
      (case.verdict, case.score) = outcome := by
  cases hcase : evaluateRemediationSafety request with
  | error e => simp [outcomeOf, hcase, Except.toOption] at h
  | ok case => exact ⟨case, rfl, by simpa [outcomeOf, hcase, Except.toOption] using h⟩

end OrbitalMesh.Evaluation
