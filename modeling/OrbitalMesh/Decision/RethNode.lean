import OrbitalMesh.Decision.Kubernetes

/-!
# Decisions about Reth nodes

`DecisionService._decide_reth_node`.  Signatures of the trigger, and a few that the
decision adds from the state of the validator and from recent restarts, are compared
with two lists of the policy.  Hypotheses, the evidence pack and the observer come
after that; each of them may only turn a decision into an escalation, but for the
restart that evidence supports.
-/

namespace OrbitalMesh.Decision

/-- The members of `reth-node.policy.json` that the decision reads. -/
structure RethPolicy where
  restartableSignatures : List String
  escalationSignatures : List String
  recoveryMode : String
  maxRecoveryAttempts : Int
  sshRestartConfidence : Binary64
  requireApprovalForRestart : Bool
  maxRestartsPerWindow : Int

/-- `reth-node.policy.json`. -/
def rethPolicy : RethPolicy where
  restartableSignatures := ["peer_starvation", "sync_stalled", "rpc_degraded"]
  escalationSignatures :=
    ["authrpc_exposed", "consensus_disconnected", "db_corruption_suspected", "disk_pressure",
     "doppelganger_window_active", "filesystem_unsuitable", "jwt_missing",
     "jwt_secret_insecure_permissions", "node_unreachable", "restart_frequency_exceeded",
     "rpc_exposed", "slashing_db_recently_restored", "validator_duty_imminent"]
  recoveryMode := "escalate_only"
  maxRecoveryAttempts := 1
  sshRestartConfidence := 0.55
  requireApprovalForRestart := true
  maxRestartsPerWindow := 1

/-- `set(value)`, as the list of its items. -/
def pySet (value : Json) : Except PyError (List Json) := do
  let items ← pyList value
  match items.find? fun item => matchesType item .array || matchesType item .object with
  | some item => typeError ("unhashable type: '" ++ typeName item ++ "'")
  | none => return items

/-- `isinstance(value, int)`, with its value. -/
def asInt? : Json → Option Int
  | .bool b => some (if b then 1 else 0)
  | .int n => some n
  | _ => none

variable (consensus : Dict)

/-- The paired client has a duty in the next moments. -/
def validatorDutyImminent : Bool :=
  truthy (getOr consensus "validator_attestation_pending" .null) ||
    (asInt? (getOr consensus "validator_proposer_within_seconds" .null)).any fun seconds =>
      decide (0 ≤ seconds ∧ seconds ≤ 30)

/-- The window in which the paired client listens for a twin of itself. -/
def doppelgangerWindow : Bool :=
  getOr consensus "doppelganger_protection_active" .null == .bool true

/-- The database that protects from slashing has come from a backup not long ago. -/
def slashingDbRestored : Bool :=
  (asNumber? (getOr consensus "slashing_db_restored_within_seconds" .null)).any fun age =>
    Binary64.le (.finite 0) age.exact && age.exact.lt (.finite 3600)

/-- `systemd_restarts_last_1h`, or what the decisions of the last hour say. -/
def recentRestarts (reading : TextReading) (context : Dict) (restartsByMesh : Int) :
    Except PyError Int := do
  let stamped ← pyInt reading (pyOr (getOr context "systemd_restarts_last_1h" (.int 0)) (.int 0))
  return max stamped restartsByMesh

variable (policy : RethPolicy)

def addedSignatures (restarts : Int) (consensus : Dict) : List String :=
  (if policy.maxRestartsPerWindow ≤ restarts then ["restart_frequency_exceeded"] else []) ++
  (if validatorDutyImminent consensus then ["validator_duty_imminent"] else []) ++
  (if doppelgangerWindow consensus then ["doppelganger_window_active"] else []) ++
  (if slashingDbRestored consensus then ["slashing_db_recently_restored"] else [])

/-- `signatures & set(names)`. -/
def commonWith (signatures : List Json) (names : List String) : List String :=
  names.filter fun name => signatures.contains (.str name)

/-- What the stages around the decision answer; one that fails is as good as none. -/
structure RethAdvice where
  restartsByMesh : Int
  topHypothesis : Option RankedHypothesis
  /-- the top hypothesis is known and comes with a description -/
  described : Bool
  evidencePack : Option Dict
  observerPromotes : Bool

def rethLadder (restarts : Int) (restartable unsafeOnes : List String) :
    TieredChoice :=
  if !unsafeOnes.isEmpty then
    if unsafeOnes == ["node_unreachable"] && policy.recoveryMode == "ssh_restart_with_approval" &&
        decide (restarts < policy.maxRecoveryAttempts) then
      ⟨⟨"restart_systemd_service", policy.sshRestartConfidence, "medium"⟩, "approval_required"⟩
    else ⟨⟨"escalate", 0.74, "high"⟩, "escalated"⟩
  else if !restartable.isEmpty then ⟨⟨"escalate", 0.62, "medium"⟩, "escalated"⟩
  else ⟨⟨"no_action", 0.66, "low"⟩, "autonomous"⟩

/-- `evidence_pack.get("sufficient") is False`. -/
def insufficient (evidencePack : Option Dict) : Bool :=
  evidencePack.any fun pack => getOr pack "sufficient" .null == .bool false

def rethRestartSupportedByEvidence (top : Option RankedHypothesis) (evidencePack : Option Dict) :
    Bool :=
  match evidencePack, top with
  | none, none => true
  | none, some _ | some _, none => false
  | some pack, some top =>
    !insufficient (some pack) && top.recommendedAction == "restart_systemd_service" &&
      !top.posteriorConfidence.lt 0.55 && top.hasResolvedEvidence

def supportedRestart (advice : RethAdvice)
    (restartable unsafeOnes : List String) (choice : TieredChoice) : TieredChoice :=
  if !restartable.isEmpty && unsafeOnes.isEmpty &&
      rethRestartSupportedByEvidence advice.topHypothesis advice.evidencePack then
    { decisionType := "restart_systemd_service"
      confidence := choice.confidence.greatest
        ((advice.topHypothesis.map (·.posteriorConfidence)).getD 0.72)
      riskLevel := "medium"
      autonomyTier :=
        if policy.requireApprovalForRestart then "approval_required" else "autonomous" }
  else choice

def promoteIf (condition : Bool) (floor : Binary64) (choice : TieredChoice) : TieredChoice :=
  if condition && choice.decisionType != "escalate" then
    ⟨⟨"escalate", choice.confidence.greatest floor, "high"⟩, "escalated"⟩
  else choice

def hypothesisPromotes (top : Option RankedHypothesis) : Bool :=
  top.any fun top =>
    top.recommendedAction == "escalate" && Binary64.le 0.55 top.posteriorConfidence

def fastPath (evidencePack : Option Dict) : Bool :=
  evidencePack.any fun pack => truthyAt pack "fast_path_signatures"

def rethChoice (advice : RethAdvice) (restarts : Int)
    (signatures : List Json) : TieredChoice :=
  let restartable := commonWith signatures policy.restartableSignatures
  let unsafeOnes := commonWith signatures policy.escalationSignatures
  let ladder := rethLadder policy restarts restartable unsafeOnes
  let supported := supportedRestart policy advice restartable unsafeOnes ladder
  let ranked := promoteIf (hypothesisPromotes advice.topHypothesis) 0.75 supported
  let sufficient := promoteIf (insufficient advice.evidencePack) 0.70 ranked
  let fast := promoteIf (fastPath advice.evidencePack) 0.80 sufficient
  promoteIf advice.observerPromotes 0.75 fast

/-- What `sorted(signatures)` asks of its items: that they compare. -/
def requireSortable (items : List Json) : Except PyError Unit :=
  if items.all (matchesType · .string) || items.all (fun item => (asNumber? item).isSome) ||
      items.dedup.length ≤ 1 then .ok ()
  else typeError "'<' not supported between instances"

/-- What `_reth_primary_hypothesis` asks of the signatures: they are joined where no
hypothesis describes what is wrong. -/
def requireDescribable (described : Bool) (items : List Json) : Except PyError Unit :=
  if described then .ok () else requireTexts items

def decideRethNode (reading : TextReading) (policy : RethPolicy) (advice : RethAdvice)
    (trigger : Trigger) : Except PyError RemediationDecision := do
  let context := trigger.relatedContext
  let given ← pySet (getOr context "error_signatures" (.arr []))
  let restarts ← recentRestarts reading context advice.restartsByMesh
  let consensus ← membersOf (getOr context "consensus" (.obj []))
  let _ ← membersOf (getOr context "node" (.obj []))
  let _ ← membersOf (getOr context "execution" (.obj []))
  let _ ← membersOf (getOr context "storage" (.obj []))
  let signatures := given ++ (addedSignatures policy restarts consensus).map .str
  let choice := rethChoice policy advice restarts signatures
  requireSortable signatures
  requireDescribable advice.described signatures
  let plan ← executionPlan reading trigger choice.decisionType 0
  let decision : RemediationDecision :=
    { decisionType := choice.decisionType
      autonomyTier := choice.autonomyTier
      riskLevel := choice.riskLevel
      blastRadius := "single_reth_node"
      confidence := choice.confidence
      executionPlan := plan }
  decision.validated

end OrbitalMesh.Decision
