import OrbitalMesh.Signals.Envelope

/-!
# Signals about Reth nodes

The path of a raw `reth_node` signal through `IngestService` and `TriggerService`.
Ingest puts the parts of the signal into the context after the client's own
members; detection turns what is wrong with the node into signatures.
-/

namespace OrbitalMesh.Signals

open OrbitalMesh.Decision

/-- `{"type": [type, "null"]}`. -/
def orNull (type : JsonType) : Schema := { types := [type, .null] }

/-- `node` in `reth-node-signal.schema.json`. -/
def rethNodeSchema : Schema :=
  Schema.record ["name", "deployment_mode", "network", "role"]
    [("name", .text), ("deployment_mode", .textIn ["systemd", "kubernetes", "docker", "unknown"]),
     ("network", .text), ("role", .textIn ["full", "archive", "rpc", "mev", "indexer", "unknown"]),
     ("client_version", orNull .string), ("data_dir", orNull .string),
     ("jwt_secret_path", orNull .string), ("fork_version", orNull .string)]

/-- `execution` in `reth-node-signal.schema.json`. -/
def rethExecutionSchema : Schema :=
  Schema.record
    ["syncing", "head_block", "block_lag", "peer_count", "min_peer_count", "max_block_lag"]
    [("syncing", { types := [.boolean] }), ("head_block", { types := [.integer] }),
     ("block_lag", { types := [.integer] }), ("peer_count", { types := [.integer] }),
     ("min_peer_count", { types := [.integer] }), ("max_block_lag", { types := [.integer] }),
     ("safe_block", orNull .integer), ("finalized_block", orNull .integer),
     ("blob_count_last_block", orNull .integer)]

/-- `consensus` in `reth-node-signal.schema.json`. -/
def rethConsensusSchema : Schema :=
  Schema.record
    ["engine_api_reachable", "jwt_configured", "forkchoice_updates_recent", "consensus_client"]
    [("engine_api_reachable", orNull .boolean), ("jwt_configured", orNull .boolean),
     ("forkchoice_updates_recent", orNull .boolean), ("consensus_client", orNull .string),
     ("client_kind",
       .textIn ["lighthouse", "prysm", "teku", "nimbus", "lodestar", "unknown"]),
     ("client_healthy", orNull .boolean), ("jwt_secret_exists", orNull .boolean),
     ("jwt_secret_mode", orNull .string), ("validator_attestation_pending", orNull .boolean),
     ("validator_proposer_within_seconds", orNull .integer), ("engine_api_p99_ms", orNull .number),
     ("doppelganger_protection_active", orNull .boolean),
     ("slashing_db_restored_within_seconds", orNull .integer)]

/-- `storage` in `reth-node-signal.schema.json`. -/
def rethStorageSchema : Schema :=
  Schema.record ["disk_used_pct"]
    [("data_dir_free_bytes", orNull .integer), ("disk_used_pct", orNull .number),
     ("db_growth_rate_bytes_per_hour", orNull .number),
     ("snapshot_mode", .textIn ["none", "restoring", "active", "unknown"]),
     ("diagnostic_source", .textIn ["none", "ssh_df", "prometheus", "configured", "unknown"]),
     ("filesystem", orNull .string), ("compaction_pending_count", orNull .integer),
     ("write_stall_seconds", orNull .number)]

/-- `rpc` in `reth-node-signal.schema.json`. -/
def rethRpcSchema : Schema :=
  Schema.record ["http_reachable"]
    [("http_reachable", { types := [.boolean] }), ("latency_ms", orNull .number),
     ("error_rate", orNull .number), ("publicly_exposed", orNull .boolean),
     ("authrpc_publicly_exposed", orNull .boolean)]

/-- `reth-node-signal.schema.json`. -/
def rethNodeSignalSchema : Schema :=
  Schema.record
    ["signal_type", "signal_id", "observed_at", "environment", "service", "node", "execution",
     "consensus", "storage", "rpc", "logs", "resource_attributes"]
    [("signal_type", .textIn ["reth_node"]), ("signal_id", .text), ("observed_at", .text),
     ("environment", .text), ("service", .text),
     ("comparison_window", .record ["baseline", "observed"]
       [("baseline", .text), ("observed", .text)]),
     ("segment", .record [] [("customer_tier", .text), ("region", .text)]),
     ("node", rethNodeSchema), ("execution", rethExecutionSchema),
     ("consensus", rethConsensusSchema), ("storage", rethStorageSchema),
     ("system", .record []
       [("ntp_offset_ms", orNull .number), ("cpu_steal_pct", orNull .number),
        ("ecc_memory", orNull .boolean), ("numa_pinned", orNull .boolean)]),
     ("mev_boost", .record []
       [("total_relays", orNull .integer), ("unhealthy_relays", .listOf .text 0),
        ("local_fallback_ready", orNull .boolean)]),
     ("rpc", rethRpcSchema),
     ("logs", .record ["error_signatures"]
       [("error_signatures", .listOf .text 0), ("recent_errors", .listOf .text 0)]),
     ("resource_attributes", .object), ("related_context", .object),
     ("post_action_observations", .object), ("field_observability", .object),
     ("ingest_status", .textIn ["live", "partial", "unreachable"]),
     ("ingest_diagnostics", .record []
       [("consecutive_rpc_failures", { types := [.integer] }),
        ("last_rpc_error", orNull .string), ("first_failure_at", orNull .string)])]

def rethContextDefaults (raw : Dict) : Dict :=
  [("release_id", getOr (objectAt raw "node") "client_version" .null),
   ("active_suppression", .bool false), ("incident_owned_by_human", .bool false),
   ("known_upstream_outage", .bool false), ("active_incidents", .int 0),
   ("similar_prior_cases", .int 0), ("rollbacks_last_24h", .int 0),
   ("regressions_last_7d", .int 0)]

/-- The parts of the signal that its context carries. -/
def rethParts : List String :=
  ["node", "execution", "consensus", "storage", "rpc", "logs", "resource_attributes"]

variable (store : LearningStore)

def rethContext (raw : Dict) : Dict :=
  enrichFromLearning store
    (((rethContextDefaults raw).update (objectAt raw "related_context")).update
      (rethParts.map fun part => (part, getOr raw part .null)))
    (textAt raw "service") (some "reth.node")

def rethEnvelope (raw : Dict) : EventEnvelope where
  objectId := textAt raw "signal_id"
  emittedAt := textAt raw "observed_at"
  payload :=
    [("signal_type", .str "reth_node"),
     ("environment", getOr raw "environment" .null),
     ("service", getOr raw "service" .null),
     ("endpoint", .str "reth.node"),
     ("comparison_window", getOr raw "comparison_window" .null),
     ("segment", getOr raw "segment"
       (.obj [("customer_tier", .str "system"), ("region", .str "unknown")]))] ++
    (rethParts.map fun part => (part, getOr raw part .null)) ++
    [("related_context", .obj (rethContext store raw)),
     ("post_action_observations", getOr raw "post_action_observations" (.obj []))]

def normalizeRethNodeSignal (raw : Dict) :
    Except PyError EventEnvelope := do
  validatePayload rethNodeSignalSchema (.obj raw)
  return rethEnvelope store raw

/-- How texts are read as numbers; `octal` is `int(text, 8)`. -/
structure RethReading extends TextReading where
  octal : String → Option Int

/-- `d.get(key) is False`. -/
def isFalse (d : Dict) (key : String) : Bool := getOr d key .null == .bool false

/-- `d.get(key) is True`. -/
def isTrue (d : Dict) (key : String) : Bool := getOr d key .null == .bool true

/-- `text[-3:]`. -/
def lastThree (text : String) : String := String.ofList (text.toList.drop (text.toList.length - 3))

variable (reading : RethReading)

def jwtModeInsecure (mode : Json) : Bool :=
  match mode with
  | .null => false
  | mode =>
    match reading.octal (lastThree (pyStrip (pyStr mode))) with
    | some bits => decide (bits % 64 ≠ 0)
    | none => false

/-- `value is not None and float(value) >= limit`. -/
def atLeast (value : Json) (limit : Binary64) : Except PyError Bool :=
  match value with
  | .null => .ok false
  | value => do return Binary64.le limit (← pyFloat reading.toTextReading value)

def signatureIf (condition : Bool) (signature : String) : List String :=
  if condition then [signature] else []

def consensusDisconnected (consensus : Dict) : Bool :=
  isFalse consensus "engine_api_reachable" || isFalse consensus "forkchoice_updates_recent" ||
    isFalse consensus "client_healthy"

def jwtMissing (consensus : Dict) : Bool :=
  isFalse consensus "jwt_configured" || isFalse consensus "jwt_secret_exists"

/-- `sorted(set(texts))`. -/
def sortedTexts (texts : List String) : List String :=
  texts.dedup.insertionSort fun a b => Json.keyLe a b = true

/-- The RPC interface does not answer, or answers with too many errors. -/
def rpcDegraded (rpc : Dict) : Except PyError Bool :=
  if isTrue rpc "http_reachable" then atLeast reading (getOr rpc "error_rate" .null) 0.05
  else .ok true

def rethSignatureList (payload : Dict) (diskFull degraded : Bool) :
    List String :=
  let execution := objectAt payload "execution"
  let consensus := objectAt payload "consensus"
  let rpc := objectAt payload "rpc"
  (itemsAt (objectAt payload "logs") "error_signatures").map Json.asStr ++
    signatureIf (decide (wholeAt execution "peer_count" < wholeAt execution "min_peer_count"))
      "peer_starvation" ++
    signatureIf (isTrue execution "syncing" &&
      decide (wholeAt execution "max_block_lag" < wholeAt execution "block_lag")) "sync_stalled" ++
    signatureIf (consensusDisconnected consensus) "consensus_disconnected" ++
    signatureIf (jwtMissing consensus) "jwt_missing" ++
    signatureIf (jwtModeInsecure reading (getOr consensus "jwt_secret_mode" .null))
      "jwt_secret_insecure_permissions" ++
    signatureIf diskFull "disk_pressure" ++
    signatureIf degraded "rpc_degraded" ++
    signatureIf (isTrue rpc "publicly_exposed") "rpc_exposed" ++
    signatureIf (isTrue rpc "authrpc_publicly_exposed") "authrpc_exposed"

def rethSignatures (payload : Dict) : Except PyError (List String) := do
  let diskFull ←
    atLeast reading (getOr (objectAt payload "storage") "disk_used_pct" .null) (.finite 90)
  let degraded ← rpcDegraded reading (objectAt payload "rpc")
  return sortedTexts (rethSignatureList reading payload diskFull degraded)

/-- The members of the context that detection reads as numbers. -/
def countedMembers : List String :=
  ["active_incidents", "similar_prior_cases", "rollbacks_last_24h", "regressions_last_7d"]

/-- `int(related_context.get(key, 0))`, for each of them. -/
def contextCounts (reading : TextReading) (context : Dict) : Except PyError Dict :=
  countedMembers.mapM fun key => do
    return (key, .int (← pyInt reading (getOr context key (.int 0))))

/-- The members of the context that detection itself sets last. -/
def ownMembers : List String := "release_id" :: countedMembers

/-- The context of the trigger: what detection says, and then the client's own
members but for `release_id` and the counts. -/
def rethTriggerContext (counts : Dict) (signatures : List String) (context : Dict) : Dict :=
  Dict.update
    ([("release_id", getOr context "release_id" .null)] ++ counts ++
      [("trigger_signals", .arr (signatures.map .str)),
       ("error_signatures", .arr (signatures.map .str))])
    (context.filter fun member => !ownMembers.contains member.1)

def rethTrigger (envelope : EventEnvelope) (counts : Dict) (signatures : List String) : Trigger :=
  let payload := envelope.payload
  let execution := objectAt payload "execution"
  let rpc := objectAt payload "rpc"
  { triggerId := "trg_" ++ envelope.objectId
    triggerType := "reth_node_degraded"
    triggeredAt := envelope.emittedAt
    environment := textAt payload "environment"
    service := textAt payload "service"
    endpoint := textAt payload "endpoint"
    flagKey := none
    currentRolloutPct := none
    comparisonWindow := (payload.get? "comparison_window").bind Json.asObj?
    segment := objectAt payload "segment"
    metrics :=
      [("baseline_p95_latency_ms", .null),
       ("observed_p95_latency_ms", getOr rpc "latency_ms" .null),
       ("baseline_error_rate", .null),
       ("observed_error_rate", getOr rpc "error_rate" .null),
       ("baseline_timeout_rate", .null), ("observed_timeout_rate", .null),
       ("sample_size", .int 1),
       ("peer_count", getOr execution "peer_count" .null),
       ("block_lag", getOr execution "block_lag" .null),
       ("disk_used_pct", getOr (objectAt payload "storage") "disk_used_pct" .null)]
    relatedContext :=
      rethTriggerContext counts signatures (objectAt payload "related_context") }

def detectRethNodeTrigger (envelope : EventEnvelope) :
    Except PyError (Option Trigger) :=
  let payload := envelope.payload
  let context := objectAt payload "related_context"
  if suppressed context then .ok none
  else do
    let signatures ← rethSignatures reading payload
    if signatures.isEmpty then return none
    else
      let counts ← contextCounts reading.toTextReading context
      validateTrigger (rethTrigger envelope counts signatures)
      return some (rethTrigger envelope counts signatures)

end OrbitalMesh.Signals
