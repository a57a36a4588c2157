import OrbitalMesh.Base.Monitor
import OrbitalMesh.Bridge.Admission
import OrbitalMesh.ControlPlane.RunStore

/-!
# The run coordinator

`RunCoordinator._execute_run` takes one run from its signal to its feedback.  On
the way it waits for operators, who steer the run from other threads: they queue
commands, change its mode and its pause points, or pull the kill switch.

Each access to the store or to the control of the run is a section of its own, and
so is each call of the engine; any of them may raise.  The loops of the source take
a number of rounds here.
-/

namespace OrbitalMesh

open Atomic

structure SteeringCommand where
  commandId : String
  runId : String
  commandType : String
  issuedAt : String
  payload : Dict

structure RunControl where
  commands : List SteeringCommand
  autoMode : Bool
  pausePoints : List String

/-- The store, and the control of the run; `tracked` says that the control is
still listed in `controls`. -/
structure MeshState where
  store : RunStore
  control : RunControl
  tracked : Bool

def pauseableStages : List String :=
  ["trigger_ready", "decision_ready", "evaluation_ready", "feedback_ready"]

def allowedSteeringCommands : List String :=
  ["approve", "cancel", "pause_after_stage", "resume", "set_auto_mode", "override_decision",
   "override_execution_parameters", "explain_blockers", "chat_with_hermes", "attach_note",
   "handoff", "override_review", "postmortem_review"]

def steeringDecisionCommands : List String :=
  ["override_decision", "override_execution_parameters"]

/-- `value in {...}`, for a set of texts; a list or a dictionary cannot be
looked up in a set. -/
def inTexts (value : Json) (texts : List String) : Except PyError Bool :=
  match value with
  | .str text => .ok (texts.contains text)
  | .arr _ => .error ⟨.typeError, "unhashable type: 'list'"⟩
  | .obj _ => .error ⟨.typeError, "unhashable type: 'dict'"⟩
  | _ => .ok false

/-- What the coordinator asks of the engine, and the methods of its own that
only record something. -/
inductive Question where
  | readiness
  | liveKubernetesSignal (deferred : Dict)
  | normalizeSignal (signal : Dict)
  | detectTrigger (event : Dict)
  | signalSource (trigger : Dict) (signal : Json)
  | investigationPlan (trigger : Dict) (signal : Json)
  | evidencePack (trigger : Dict) (signal plan : Json)
  | wireInvestigation (trigger signal : Dict)
  | reasoningBank (trigger : Dict) (evidence : Json)
  | investigationReport (trigger : Dict) (evidence : Json)
  | investigationFailure (trigger : Dict) (error : String)
  | scenarioAnalysis (trigger : Dict) (packet report : Json)
  | routeServiceAgent (trigger : Dict)
  | decide (trigger : Dict) (scenario evidence packet report : Json)
  | rcaReport (source : String) (trigger : Dict) (decision : ContractDecision) (evidence : Json)
  | trajectory (decision : ContractDecision) (evaluation : EvaluationResult)
  | deliveryContext
  | agentTasks (decision : ContractDecision) (evaluation : EvaluationResult)
  | recoveryRun (decision : ContractDecision) (evaluation : EvaluationResult)
  | deferredRecheck (decision : ContractDecision)
  | settleAgentTasks
  | overrideLearning (original overridden : ContractDecision) (payload : Dict)
  | feedback (decision : ContractDecision) (execution event : Dict)
  | learning (decision : ContractDecision) (feedback : Dict)
  | memoryCrystallization
  | benchmark
  | reasoningBankLessons
  | stopWatchers
  | disableLiveExecution
  | clearNamespaceAllowlist
  | killSwitchArtifact (actions : List String)
  | reviewRecord (commandType : String) (payload : Dict)
  | steeringRecord (commandType : String) (payload : Dict)

/-- What each question is answered with, when nothing is raised. -/
abbrev Question.Value : Question → Type
  | .readiness => Dict
  | .liveKubernetesSignal _ => Dict
  | .normalizeSignal _ => Dict
  | .detectTrigger _ => Option Dict
  | .signalSource _ _ => String
  | .investigationPlan _ _ => Json
  | .evidencePack _ _ _ => Json
  | .wireInvestigation _ _ => Unit
  | .reasoningBank _ _ => Json
  | .investigationReport _ _ => Json
  | .investigationFailure _ _ => Dict
  | .scenarioAnalysis _ _ _ => Json
  | .routeServiceAgent _ => Dict
  | .decide _ _ _ _ _ => ContractDecision
  | .rcaReport _ _ _ _ => Dict
  | .recoveryRun _ _ => Bool
  | .feedback _ _ _ => Dict
  | _ => Unit

/-- The sections that record something, look at the control or change it.  The
operators' calls consist of these alone. -/
inductive RecordOp where
  /-- a section of the state store -/
  | store (op : StoreOp)
  /-- a call of the engine or of a recording method -/
  | ask (question : Question)
  /-- `self._get_control(run_id)` -/
  | getControl
  | pausePoints
  | autoMode
  | hasCommands
  /-- `control.condition.wait(timeout=0.5)` -/
  | wait
  /-- `control.pause_points.add(stage)` -/
  | addPausePoint (stage : String)
  | setAutoMode (enabled : Bool)
  | setPausePoints (stages : List String)
  /-- `control.commands.append(command)` -/
  | pushCommand (command : SteeringCommand)
  /-- the loop of `apply_kill_switch` over the controls -/
  | forceApprovalGate
  /-- `_finalize_run` -/
  | finalizeRun

abbrev RecordOp.Answer : RecordOp → Type
  | .store op => Except PyError (StoreResp op)
  | .ask question => Except PyError question.Value
  | .getControl => Bool
  | .pausePoints => List String
  | .autoMode => Bool
  | .hasCommands => Bool
  | _ => Unit

/-- What each of these sections does.  A call of the engine or of a recording
method may leave anything in the store. -/
def recordStep (config : StoreConfig) (hash : MerkleHash) :
    (op : RecordOp) → MeshState → op.Answer → MeshState → Prop
  | .store op, s, answer, t =>
    match answer with
    | .error _ => t = s
    | .ok value => ∃ store, storeStep config hash op s.store value store ∧ t = { s with store }
  | .ask _, s, _, t => ∃ store, t = { s with store }
  | .getControl, s, found, t => found = s.tracked ∧ t = s
  | .pausePoints, s, stages, t => stages = s.control.pausePoints ∧ t = s
  | .autoMode, s, enabled, t => enabled = s.control.autoMode ∧ t = s
  | .hasCommands, s, found, t => found = !s.control.commands.isEmpty ∧ t = s
  | .wait, s, _, t => t = s
  | .addPausePoint stage, s, _, t =>
    t = { s with control := { s.control with
      pausePoints := s.control.pausePoints.insert stage } }
  | .setAutoMode enabled, s, _, t =>
    t = { s with control := { s.control with autoMode := enabled } }
  | .setPausePoints stages, s, _, t =>
    t = { s with control := { s.control with pausePoints := stages } }
  | .pushCommand command, s, _, t =>
    t = { s with control := { s.control with commands := s.control.commands ++ [command] } }
  | .forceApprovalGate, s, _, t =>
    t = if s.tracked then
        { s with control := { s.control with
          autoMode := false
          pausePoints := s.control.pausePoints.insert "evaluation_ready" } }
      else s
  | .finalizeRun, s, _, t => t = { s with tracked := false }

inductive RunOp where
  | record (op : RecordOp)
  /-- `control.commands.popleft()` -/
  | popCommand
  /-- `engine.evaluation.evaluate(trigger, decision, ...)` -/
  | evaluate (trigger : Dict) (decision : ContractDecision) (allowRereevaluation : Bool)
  /-- `engine.orchestrator.execute(decision, evaluation)` -/
  | execute (decision : ContractDecision) (evaluation : EvaluationResult)

abbrev RunOp.Answer : RunOp → Type
  | .record op => op.Answer
  | .popCommand => Except PyError SteeringCommand
  | .evaluate _ _ _ => Except PyError EvaluationResult
  | .execute _ _ => Except PyError Dict

def runStep (config : StoreConfig) (hash : MerkleHash) :
    (op : RunOp) → MeshState → op.Answer → MeshState → Prop
  | .record op, s, answer, t => recordStep config hash op s answer t
  | .popCommand, s, answer, t =>
    match s.control.commands with
    | [] => answer = .error ⟨.exception, "pop from an empty deque"⟩ ∧ t = s
    | command :: rest =>
      answer = .ok command ∧ t = { s with control := { s.control with commands := rest } }
  | .evaluate _ _ _, s, _, t => ∃ store, t = { s with store }
  | .execute _ _, s, _, t => ∃ store, t = { s with store }

abbrev Recording (α : Type) := Raising RecordOp RecordOp.Answer PyError α

abbrev Coord (α : Type) := Raising RunOp RunOp.Answer PyError α

def ask (question : Question) : Recording question.Value :=
  (Prog.issue (RecordOp.ask question) :
    Prog RecordOp RecordOp.Answer (Except PyError question.Value))

/-- A method of the state store; any of its sections may raise. -/
def onStore {α : Type} : StoreProg α → Recording α
  | .ret a => (.ret (.ok a) : Prog RecordOp RecordOp.Answer (Except PyError α))
  | .call op k =>
    (.call (.store op) fun
      | .ok value => onStore (k value)
      | .error e => .ret (.error e) : Prog RecordOp RecordOp.Answer (Except PyError α))

def perform (op : RecordOp) : Recording op.Answer := Raising.perform op

/-- `stage in control.pause_points`. -/
def pausesAt (stage : String) : Recording Bool := do
  let stages ← perform .pausePoints
  return stages.contains stage

def record {α : Type} : Recording α → Coord α := go
where
  /-- Its sections, one by one. -/
  go {β : Type} : Prog RecordOp RecordOp.Answer β → Prog RunOp RunOp.Answer β
    | .ret b => .ret b
    | .call op k => .call (.record op) fun r => go (k r)

instance : MonadLift Recording Coord := ⟨record⟩

/-- `control.commands.popleft()`. -/
def popCommand : Coord SteeringCommand :=
  (Prog.issue RunOp.popCommand : Prog RunOp RunOp.Answer (Except PyError SteeringCommand))

def evaluate (trigger : Dict) (decision : ContractDecision) (allowRereevaluation : Bool) :
    Coord EvaluationResult :=
  (Prog.issue (RunOp.evaluate trigger decision allowRereevaluation) :
    Prog RunOp RunOp.Answer (Except PyError EvaluationResult))

def execute (decision : ContractDecision) (evaluation : EvaluationResult) : Coord Dict :=
  (Prog.issue (RunOp.execute decision evaluation) :
    Prog RunOp RunOp.Answer (Except PyError Dict))

section

variable (hash : MerkleHash) (runId : String)

def getRunSession : Recording (Option RunSession) := onStore (FileStateStore.getRunSession runId)

def appendRunEvent (draft : EventDraft) : Recording Unit := do
  let _ ← onStore (FileStateStore.appendRunEvent hash draft)
  return ()

/-- The keyword arguments of `_update_session`. -/
structure SessionUpdate where
  stage : Option String := none
  status : Option String := none
  pendingPauseStage : Option (Option String) := none
  pausePoints : Option (List String) := none
  autoMode : Option Bool := none
  error : Option String := none

/-- `setattr` for each of the arguments. -/
def SessionUpdate.apply (update : SessionUpdate) (session : RunSession) : RunSession :=
  { session with
    stage := update.stage.getD session.stage
    status := update.status.getD session.status
    pendingPauseStage := update.pendingPauseStage.getD session.pendingPauseStage
    pausePoints := update.pausePoints.getD session.pausePoints
    autoMode := update.autoMode.getD session.autoMode
    error := update.error.or session.error }

def updateSession (update : SessionUpdate) : Recording Unit := do
  match ← getRunSession runId with
  | none => return ()
  | some session =>
    let now ← onStore FileStateStore.timestamp
    let _ ← onStore (FileStateStore.saveRunSession
      { update.apply session with updatedAt := now } (some session))
    return ()

def setArtifact (key : String) (value : Json) : Recording Unit := do
  match ← getRunSession runId with
  | none => return ()
  | some session =>
    let now ← onStore FileStateStore.timestamp
    let _ ← onStore (FileStateStore.saveRunSession
      { session with artifacts := session.artifacts.set key value, updatedAt := now }
      (some session))
    return ()

def isChaosProbeRun : Recording Bool := do
  let session ← getRunSession runId
  return (session.bind fun session => session.artifacts.get? "chaos_probe") == some (.bool true)

/-- What `_wait_if_needed` returns. -/
inductive WaitOutcome where
  /-- `{"action": "continue"}` -/
  | proceed
  | cancel
  | override (payload : Dict)

variable (stage : String)

def requiresPause : Recording Bool := do
  if ← pausesAt stage then
    return true
  else if stage == "evaluation_ready" then
    let autoMode ← perform .autoMode
    return !autoMode
  else
    return false

variable (evaluation : Option EvaluationResult)

/-- `can_auto_continue`, for the stage `evaluation_ready`. -/
def evaluationContinues :
    Recording Bool := do
  if stage == "evaluation_ready" then
    if ← perform .autoMode then
      match evaluation with
      | none => return false
      | some evaluation =>
        if evaluation.passed && evaluation.finalRecommendation == "execute" then
          let paused ← pausesAt stage
          return !paused
        else
          return false
    else
      return false
  else
    return false

def canAutoContinue : Recording Bool := do
  if ← evaluationContinues stage evaluation then
    return true
  else if stage == "feedback_ready" then
    let paused ← pausesAt stage
    return !paused
  else
    return false

/-- The condition on which a waiting run goes on by itself. -/
def continuesByItself :
    Recording Bool := do
  if stage == "evaluation_ready" then
    if ← perform .autoMode then
      match evaluation with
      | none => return false
      | some evaluation =>
        return evaluation.passed && evaluation.finalRecommendation == "execute"
    else
      return false
  else
    return false

def resumeStage : Recording (Option WaitOutcome) := do
  updateSession runId
    { stage := some stage, status := some "running", pendingPauseStage := some none }
  return some .proceed

def approvalBlocked : EventDraft where
  runId := runId
  stage := "awaiting_operator"
  eventType := "approval_blocked"
  payload :=
    [("reason", .str "evaluation did not pass"),
     ("final_recommendation", optionalText (evaluation.map (·.finalRecommendation))),
     ("blocking_reasons", .arr ((evaluation.map (·.blockingReasons)).getD [] |>.map .str))]
  summary := some
    [("status", .str "blocked"),
     ("recommendation", .str ((evaluation.map (·.finalRecommendation)).getD "unknown"))]
  status := some "blocked"

/-- The command `pause_after_stage`. -/
def pauseAfterStage (stage : Json) : Recording Unit := do
  if ← Raising.ofExcept (inTexts stage pauseableStages) then
    perform (.addPausePoint (pyStr stage))
    let stages ← perform .pausePoints
    let sorted := stages.insertionSort fun a b => Json.keyLe a b = true
    updateSession runId { pausePoints := some sorted }
  else
    return ()

/-- The loop of `_wait_if_needed`, for a number of rounds. -/
def awaitOperator (stage : String) (evaluation : Option EvaluationResult) :
    Nat → Coord (Option WaitOutcome)
  | 0 => return none
  | rounds + 1 => do
    if ← perform .hasCommands then
      let command ← popCommand
      if command.commandType == "attach_note" then
        awaitOperator stage evaluation rounds
      else if command.commandType == "pause_after_stage" then
        pauseAfterStage runId (valueAt command.payload "stage")
        awaitOperator stage evaluation rounds
      else if command.commandType == "set_auto_mode" then
        let enabled := truthy ((command.payload.get? "enabled").getD (.bool true))
        perform (.setAutoMode enabled)
        let autoMode ← perform .autoMode
        updateSession runId { autoMode := some autoMode }
        if ← continuesByItself stage evaluation then
          resumeStage runId stage
        else
          awaitOperator stage evaluation rounds
      else if command.commandType == "cancel" then
        return some .cancel
      else if command.commandType == "resume" || command.commandType == "approve" then
        if stage == "evaluation_ready" && (match evaluation with
            | none => true
            | some evaluation =>
              !evaluation.passed || evaluation.finalRecommendation != "execute") then
          appendRunEvent hash (approvalBlocked runId evaluation)
          awaitOperator stage evaluation rounds
        else
          resumeStage runId stage
      else if steeringDecisionCommands.contains command.commandType then
        updateSession runId
          { stage := some "awaiting_operator", status := some "awaiting_operator" }
        return some (.override
          (Dict.update [("type", .str command.commandType)] command.payload))
      else
        awaitOperator stage evaluation rounds
    else
      perform .wait
      let current ← getRunSession runId
      if (current.map fun session => ["cancelled", "failed"].contains session.status).getD
          false then
        return some .cancel
      else if ← continuesByItself stage evaluation then
        resumeStage runId stage
      else
        awaitOperator stage evaluation rounds

def waitIfNeeded (rounds : Nat) (stage : String) (evaluation : Option EvaluationResult) :
    Coord (Option WaitOutcome) := do
  let session ← getRunSession runId
  let tracked ← perform .getControl
  if session.isNone || !tracked then
    return some .cancel
  else
    let requires ← requiresPause stage
    let continues ← canAutoContinue stage evaluation
    if !requires && continues then
      return some .proceed
    else if !requires && !(["evaluation_ready", "feedback_ready"].contains stage) then
      return some .proceed
    else
      updateSession runId
        { stage := some "awaiting_operator", status := some "awaiting_operator"
          pendingPauseStage := some (some stage) }
      ask .benchmark
      awaitOperator hash runId stage evaluation rounds

variable (decision : ContractDecision)

def applyOverride (payload : Dict) :
    Except PyError ContractDecision := do
  let data ← decision.toDict
  let kind ← requireKey payload "type"
  if Json.pyEq kind (.str "override_decision") then
    let data := ["decision_type", "summary", "autonomy_tier", "confidence"].foldl
      (fun data key => match payload.get? key with
        | some value => data.set key value
        | none => data) data
    let data := match payload.get? "risk" with
      | some (.obj risk) => data.set "risk" (.obj (Dict.update (membersAt data "risk") risk))
      | _ => data
    let data := match payload.get? "execution_plan" with
      | some (.obj plan) =>
        let current := membersAt data "execution_plan"
        let merged := Dict.update current plan
        data.set "execution_plan" (.obj
          (match current.get? "parameters", Dict.get? plan "parameters" with
            | some (.obj own), some (.obj other) =>
              merged.set "parameters" (.obj (Dict.update own other))
            | _, _ => merged))
      | _ => data
    ContractDecision.fromDict data
  else
    let parameters ← match payload.get? "parameters" with
      | none => pure []
      | some (.obj parameters) => pure parameters
      | some value => .error ⟨.typeError, "'" ++ typeName value ++ "' object is not a mapping"⟩
    let plan := membersAt data "execution_plan"
    let plan := plan.set "parameters"
      (.obj (Dict.update (membersAt plan "parameters") parameters))
    let plan := match payload.get? "rollback_plan" with
      | some value => plan.set "rollback_plan" value
      | none => plan
    ContractDecision.fromDict (data.set "execution_plan" (.obj plan))

/-- `_ranked_hypotheses_from_decision`. -/
def rankedHypotheses : List Json :=
  let dictionaries (items : List Json) := items.filter fun item => (item.asObj?).isSome
  match decision.reasoning.get? "ranked_hypotheses" with
  | some (.arr ranked) => dictionaries ranked
  | _ =>
    match Dict.get? (membersAt decision.reasoning "evidence_pack") "hypotheses" with
    | some (.arr hypotheses) => dictionaries hypotheses
    | _ => []

/-- `decision.reasoning.setdefault("evidence_pack", {})["rca_report"] = ...`. -/
def withRcaReport (report : Dict) :
    Except PyError ContractDecision := do
  let pack ← match decision.reasoning.get? "evidence_pack" with
    | none => pure []
    | some (.obj pack) => pure pack
    | some value => .error ⟨.typeError,
        "'" ++ typeName value ++ "' object does not support item assignment"⟩
  let brief : Dict :=
    ["report_id", "likely_cause", "confidence", "recommended_next_step"].map
      fun field => (field, valueAt report field)
  return { decision with
    reasoning := decision.reasoning.set "evidence_pack"
      (.obj (Dict.set pack "rca_report" (.obj brief))) }

/-- The modes of a run that the coordinator reads. -/
structure RunModes where
  evaluationMode : String
  orchestrationMode : String

def orchestrationIntegrationName (mode : String) : Option String :=
  if ["native", "native_hermes", "native_goose"].contains mode then none else some mode

/-- An event that says why something was left out. -/
def skippedArtifact (stage artifactKey : String) (payload summary : Dict)
    (integrationName : Option String) (status : String) : EventDraft where
  runId := runId
  stage := stage
  eventType := "integration_artifact_recorded"
  payload := payload
  summary := some summary
  artifactKey := some artifactKey
  integrationName := integrationName
  status := some status

/-- The part of `_record_decision_and_evaluation` before the evaluation: the
decision with the report on its root cause, recorded. -/
def recordDecision (source : String) (trigger : Dict) (decision : ContractDecision) :
    Recording ContractDecision := do
  let session ← getRunSession runId
  let artifacts := (session.map (·.artifacts)).getD []
  let report ← ask (.rcaReport source trigger decision (valueAt artifacts "evidence_pack"))
  let decision ← Raising.ofExcept (withRcaReport decision report)
  setArtifact runId "rca_report" (.obj report)
  appendRunEvent hash
    { runId, stage := "decision_ready", eventType := "integration_artifact_recorded"
      payload := report
      summary := some (["likely_cause", "confidence", "recommended_next_step"].map
        fun field => (field, valueAt report field))
      artifactKey := some "rca_report", integrationName := some (source ++ "_rca")
      status := some "recorded" }
  match rankedHypotheses decision with
  | [] => pure ()
  | top :: rest =>
    setArtifact runId "ranked_hypotheses" (.arr (top :: rest))
    appendRunEvent hash
      { runId, stage := "decision_ready", eventType := "hypothesis_ranked"
        payload := [("trigger_id", valueAt trigger "trigger_id"), ("top_hypothesis", top),
          ("ranked_hypotheses", .arr (top :: rest))]
        summary := some
          [("top_hypothesis", valueAt (top.asObj?.getD []) "hypothesis_id"),
           ("recommended_action", valueAt (top.asObj?.getD []) "recommended_action")]
        artifactKey := some "ranked_hypotheses", status := some "recorded" }
  let payload ← Raising.ofExcept decision.toDict
  setArtifact runId "decision" (.obj payload)
  updateSession runId { stage := some "decision_ready", status := some "running" }
  appendRunEvent hash
    { runId, stage := "decision_ready", eventType := "decision_ready", payload
      summary := some [("decision_type", .str decision.decisionType),
        ("autonomy_tier", .str decision.autonomyTier)]
      artifactKey := some "decision", status := some "recorded" }
  return decision

variable (modes : RunModes)

/-- The part of `_record_decision_and_evaluation` after the evaluation. -/
def recordEvaluation (decision : ContractDecision)
    (evaluation : EvaluationResult) (allowRereevaluation : Bool) : Recording Unit := do
  setArtifact runId "evaluation" (.obj evaluation.asDict)
  updateSession runId { stage := some "evaluation_ready", status := some "running" }
  appendRunEvent hash
    { runId, stage := "evaluation_ready", eventType := "evaluation_ready"
      payload := evaluation.asDict
      summary := some [("recommendation", .str evaluation.finalRecommendation),
        ("passed", .bool evaluation.passed)]
      artifactKey := some "evaluation"
      integrationName :=
        if modes.evaluationMode != "native" then some modes.evaluationMode else none
      status := some evaluation.finalRecommendation }
  ask (.trajectory decision evaluation)
  ask .deliveryContext
  if allowRereevaluation then
    appendRunEvent hash (skippedArtifact runId "evaluation_ready" "agent_tasks"
      [("reason", .str "operator_override_rereevaluation"), ("agent_tasks_reused", .bool true)]
      [("agent_tasks_reused", .bool true)] (some "agent_mesh") "reused")
  else if ← isChaosProbeRun runId then
    appendRunEvent hash (skippedArtifact runId "evaluation_ready" "agent_tasks"
      [("reason", .str "chaos_probe_fast_path"),
       ("skipped", .arr [.str "agent_tasks", .str "agent_reconciliation"])]
      [("status", .str "skipped"), ("reason", .str "chaos_probe_fast_path")]
      (some "agent_mesh") "skipped")
  else
    ask (.agentTasks decision evaluation)

/-- `_record_decision_and_evaluation`, which returns the decision it changes in the source. -/
def recordDecisionAndEvaluation (source : String) (trigger : Dict)
    (decision : ContractDecision) (allowRereevaluation : Bool) :
    Coord (ContractDecision × EvaluationResult) := do
  let decision ← recordDecision hash runId source trigger decision
  let evaluation ← evaluate trigger decision allowRereevaluation
  recordEvaluation hash runId modes decision evaluation allowRereevaluation
  return (decision, evaluation)

/-- How far a run has come when its thread stops: it has returned, or it still
stands in one of its loops. -/
inductive RunEnd where
  | returned
  | waiting

def cancelRun : Recording RunEnd := do
  appendRunEvent hash
    { runId, stage := "cancelled", eventType := "run_cancelled"
      payload := [("reason", .str "operator_cancelled")]
      summary := some [("status", .str "cancelled")], status := some "cancelled" }
  updateSession runId
    { stage := some "cancelled", status := some "cancelled", pendingPauseStage := some none }
  return .returned

/-- An override that comes too early or too late. -/
def steeringRejected (stage reason detail : String) : EventDraft where
  runId := runId
  stage := stage
  eventType := "steering_rejected"
  payload := [("reason", .str reason), ("detail", .str detail)]
  summary := some [("status", .str "rejected")]
  status := some "rejected"

def ingestSignal (session : RunSession) (signal : Dict) (scenarioKey : Option String) :
    Recording (Dict × Dict) := do
  let readiness ← ask .readiness
  setArtifact runId "integration_readiness" (.obj readiness)
  appendRunEvent hash
    { runId, stage := "queued", eventType := "run_queued"
      payload := [("scenario_key", optionalText scenarioKey),
        ("goal_id", optionalText session.goalId), ("steering_mode", .str session.steeringMode),
        ("pause_points", .arr (session.pausePoints.map .str))]
      summary := some [("status", .str "queued")], status := some "queued" }
  appendRunEvent hash
    { runId, stage := "queued", eventType := "integration_readiness_recorded"
      payload := readiness
      summary := some [("promptfoo_ready", valueAt (membersAt readiness "promptfoo") "ready"),
        ("goose_ready", valueAt (membersAt readiness "goose") "ready")]
      artifactKey := some "integration_readiness", status := some "captured" }
  updateSession runId { stage := some "ingesting", status := some "running" }
  let deferred := membersAt signal "__deferred_live_signal"
  let signal ← if Json.pyEqOpt (deferred.get? "source") (some (.str "kubernetes")) then do
      let live ← ask (.liveKubernetesSignal deferred)
      setArtifact runId "input_signal" (.obj live)
      pure live
    else pure signal
  let event ← ask (.normalizeSignal signal)
  setArtifact runId "normalized_event" (.obj event)
  appendRunEvent hash
    { runId, stage := "ingesting", eventType := "normalized_event", payload := event
      summary := some (membersAt event "summary"), artifactKey := some "normalized_event"
      status := some "recorded" }
  return (signal, event)

def endWithoutTrigger : Recording RunEnd := do
  appendRunEvent hash
    { runId, stage := "no_trigger", eventType := "no_trigger"
      payload := [("reason", .str "signal did not satisfy trigger thresholds")]
      summary := some [("status", .str "completed")], status := some "completed" }
  updateSession runId
    { stage := some "no_trigger", status := some "completed", pendingPauseStage := some none }
  ask .benchmark
  return .returned

/-- The loop at the stage `trigger_ready`; `none` is a run that still waits. -/
def triggerGate (rounds : Nat) : Nat → Coord (Option WaitOutcome)
  | 0 => return none
  | remaining + 1 => do
    match ← waitIfNeeded hash runId rounds "trigger_ready" none with
    | none => return none
    | some .cancel => return some .cancel
    | some (.override _) =>
      appendRunEvent hash (steeringRejected runId "trigger_ready" "override_before_decision"
        ("Decision overrides are not valid before evaluation_ready; " ++
          "command drained from queue."))
      triggerGate rounds remaining
    | some .proceed => return some .proceed

/-- What the stages before the decision have found. -/
structure Findings where
  evidence : Json
  packet : Json
  report : Json
  scenario : Json

def gatherEvidence (trigger : Dict) (signal : Json) : Recording Json := do
  let plan ← ask (.investigationPlan trigger signal)
  tryCatch (ask (.evidencePack trigger signal plan)) fun e => do
    appendRunEvent hash
      { runId, stage := "evidence_pack_ready", eventType := "evidence_pack_ready"
        payload := [("error", .str e.text), ("fallback", .str "inline_signal")]
        summary := some [("status", .str "failed")], artifactKey := some "evidence_pack"
        status := some "failed" }
    return .null

def investigateTrigger (trigger : Dict) (evidence : Json) : Recording Json :=
  tryCatch (ask (.investigationReport trigger evidence)) fun e => do
    let report ← ask (.investigationFailure trigger e.text)
    setArtifact runId "investigation_report" (.obj report)
    appendRunEvent hash
      { runId, stage := "investigation_ready", eventType := "investigation_ready"
        payload := report
        summary := some [("status", .str "failed"), ("stop_reason", valueAt report "stop_reason")]
        artifactKey := some "investigation_report", status := some "failed" }
    return .obj report

def analyseScenario (trigger : Dict) (packet report : Json) : Recording Json :=
  tryCatch (ask (.scenarioAnalysis trigger packet report)) fun e => do
    appendRunEvent hash
      { runId, stage := "scenario_analysis_ready", eventType := "scenario_analysis_ready"
        payload := [("error", .str e.text), ("fallback", .str "existing_decision_service")]
        summary := some [("status", .str "failed")], artifactKey := some "scenario_analysis"
        status := some "failed" }
    return .null

/-- `reasoning_bank_packet`: the packet of an enabled bank, when it is a
dictionary. -/
def reasoningBankPacket (artifact : Json) : Json :=
  let members := artifact.asObj?.getD []
  match members.get? "packet" with
  | some (.obj packet) => if truthyAt members "enabled" then .obj packet else .null
  | _ => .null

def investigate (trigger signal : Dict) (canonicalSignal : Json) : Recording Findings := do
  if ← isChaosProbeRun runId then
    updateSession runId { stage := some "evidence_pack_ready", status := some "running" }
    appendRunEvent hash
      { runId, stage := "evidence_pack_ready", eventType := "evidence_pack_ready"
        payload := [("source", .str "chaos_probe_fast_path"),
          ("trigger_id", valueAt trigger "trigger_id"),
          ("signal_type", valueAt signal "signal_type")]
        summary := some [("status", .str "skipped"), ("reason", .str "chaos_probe_fast_path")]
        artifactKey := some "evidence_pack", status := some "skipped" }
    appendRunEvent hash (skippedArtifact runId "evidence_pack_ready" "chaos_probe_fast_path"
      [("reason", .str "chaos_probe_fast_path"),
       ("skipped",
          .arr [.str "reasoning_bank", .str "investigation", .str "scenario_analysis"])]
      [("status", .str "skipped"), ("reason", .str "chaos_probe_fast_path")] none "skipped")
    return ⟨.null, .null, .null, .null⟩
  else
    let evidence ← gatherEvidence hash runId trigger canonicalSignal
    ask (.wireInvestigation trigger signal)
    let artifact ← ask (.reasoningBank trigger evidence)
    let packet := reasoningBankPacket artifact
    let report ← investigateTrigger hash runId trigger evidence
    let scenario ← analyseScenario hash runId trigger packet report
    return ⟨evidence, packet, report, scenario⟩

def routeServiceAgent (trigger : Dict) : Recording Unit := do
  let agent ← ask (.routeServiceAgent trigger)
  setArtifact runId "service_agent" (.obj agent)
  appendRunEvent hash
    { runId, stage := "trigger_ready", eventType := "integration_artifact_recorded"
      payload := agent
      summary := some [("service", valueAt (membersAt agent "agent") "service"),
        ("matched", valueAt agent "matched")]
      artifactKey := some "service_agent", integrationName := some "service_agents"
      status := some "recorded" }

def deferRun : Recording RunEnd := do
  ask (.deferredRecheck decision)
  ask .settleAgentTasks
  appendRunEvent hash
    { runId, stage := "completed", eventType := "run_completed"
      payload := [("decision_type", .str "defer_until"), ("status", .str "deferred")]
      summary := some [("status", .str "deferred")], status := some "deferred" }
  updateSession runId
    { stage := some "completed", status := some "completed", pendingPauseStage := some none }
  return .returned

/-- How the loop at the stage `evaluation_ready` ends. -/
inductive GateExit where
  | waiting
  | cancelled
  | execute (decision : ContractDecision) (evaluation : EvaluationResult)

/-- The loop at the stage `evaluation_ready`: an override replaces the decision,
which is then evaluated again. -/
def evaluationGate (modes : RunModes) (source : String) (trigger : Dict) (rounds : Nat) :
    Nat → ContractDecision → EvaluationResult → Coord GateExit
  | 0, _, _ => return .waiting
  | remaining + 1, decision, evaluation => do
    match ← waitIfNeeded hash runId rounds "evaluation_ready" (some evaluation) with
    | none => return .waiting
    | some .proceed => return .execute decision evaluation
    | some .cancel => return .cancelled
    | some (.override payload) =>
      let overridden ← Raising.ofExcept (applyOverride decision payload)
      ask (.overrideLearning decision overridden payload)
      let (decision, evaluation) ← recordDecisionAndEvaluation hash runId modes source
        trigger overridden true
      evaluationGate modes source trigger rounds remaining decision evaluation

def executionReviewArtifact (execution : Dict) : Option (String × String × Dict) :=
  let refs := membersAt execution "external_refs"
  match refs.get? "hermes_review" with
  | some (.obj payload) => some ("hermes_review", "hermes", payload)
  | _ =>
    match refs.get? "goose_review" with
    | some (.obj payload) => some ("goose_review", "goose", payload)
    | _ => none

def recordExecution (decision : ContractDecision)
    (evaluation : EvaluationResult) (event execution : Dict) : Recording Dict := do
  setArtifact runId "execution" (.obj execution)
  appendRunEvent hash
    { runId, stage := "executing", eventType := "execution_recorded", payload := execution
      summary := some [("status", valueAt execution "status")], artifactKey := some "execution"
      integrationName := orchestrationIntegrationName modes.orchestrationMode
      status := some (textAt execution "status") }
  match executionReviewArtifact execution with
  | none => pure ()
  | some (artifactKey, integrationName, payload) =>
    setArtifact runId artifactKey (.obj payload)
    appendRunEvent hash
      { runId, stage := "executing", eventType := "integration_artifact_recorded", payload
        summary := some [("approved", valueAt payload "approved")]
        artifactKey := some artifactKey, integrationName := some integrationName
        status := some "recorded" }
  let feedback ← ask (.feedback decision execution event)
  setArtifact runId "feedback" (.obj feedback)
  updateSession runId
    { stage := some "feedback_ready", status := some "running", pendingPauseStage := some none }
  appendRunEvent hash
    { runId, stage := "feedback_ready", eventType := "feedback_recorded", payload := feedback
      summary := some [("outcome", valueAt feedback "outcome")], artifactKey := some "feedback"
      status := some (textAt feedback "outcome") }
  ask (.trajectory decision evaluation)
  return feedback

/-- The loop at the stage `feedback_ready`. -/
def feedbackGate (evaluation : EvaluationResult) (rounds : Nat) :
    Nat → Coord (Option WaitOutcome)
  | 0 => return none
  | remaining + 1 => do
    match ← waitIfNeeded hash runId rounds "feedback_ready" (some evaluation) with
    | none => return none
    | some .cancel => return some .cancel
    | some (.override _) =>
      appendRunEvent hash (steeringRejected runId "feedback_ready" "override_after_execution"
        ("Decision-changing steering after actuation is rejected " ++
          "(late intervention would corrupt the run record)."))
      feedbackGate evaluation rounds remaining
    | some .proceed => return some .proceed

def completeRun (execution feedback : Dict) : Recording RunEnd := do
  ask .settleAgentTasks
  appendRunEvent hash
    { runId, stage := "completed", eventType := "run_completed"
      payload := [("execution_status", valueAt execution "status"),
        ("feedback_outcome", valueAt feedback "outcome")]
      summary := some [("status", .str "completed")], status := some "completed" }
  updateSession runId
    { stage := some "completed", status := some "completed", pendingPauseStage := some none }
  ask (.learning decision feedback)
  ask .memoryCrystallization
  ask .benchmark
  ask .reasoningBankLessons
  return .returned

def actOnDecision (event : Dict) (rounds : Nat) (decision : ContractDecision)
    (evaluation : EvaluationResult) : Coord RunEnd := do
  updateSession runId
    { stage := some "executing", status := some "running", pendingPauseStage := some none }
  let execution ← execute decision evaluation
  let feedback ← recordExecution hash runId modes decision evaluation event execution
  match ← feedbackGate hash runId evaluation rounds rounds with
  | none => return .waiting
  | some .cancel => cancelRun hash runId
  | some _ => completeRun hash runId decision execution feedback

def decideAndAct (signal event trigger : Dict) (canonicalSignal : Json)
    (source : String) (rounds : Nat) : Coord RunEnd := do
  let findings ← investigate hash runId trigger signal canonicalSignal
  routeServiceAgent hash runId trigger
  let decision ← ask (.decide trigger findings.scenario findings.evidence findings.packet
    findings.report)
  let (decision, evaluation) ← recordDecisionAndEvaluation hash runId modes source trigger
    decision false
  if ← ask (.recoveryRun decision evaluation) then
    return .returned
  else if decision.decisionType == "defer_until" then
    deferRun hash runId decision
  else
    match ← evaluationGate hash runId modes source trigger rounds rounds decision evaluation with
    | .waiting => return .waiting
    | .cancelled => cancelRun hash runId
    | .execute decision evaluation =>
      actOnDecision hash runId modes event rounds decision evaluation

def passTrigger (signal event trigger : Dict) (rounds : Nat) :
    Coord RunEnd := do
  let canonicalSignal : Json := match event.get? "payload" with
    | some (.obj payload) => .obj payload
    | _ => .obj signal
  let source ← ask (.signalSource trigger canonicalSignal)
  setArtifact runId "trigger" (.obj trigger)
  updateSession runId { stage := some "trigger_ready", status := some "running" }
  appendRunEvent hash
    { runId, stage := "trigger_ready", eventType := "trigger_ready", payload := trigger
      summary := some [("trigger_type", valueAt trigger "trigger_type")]
      artifactKey := some "trigger", status := some "recorded" }
  match ← triggerGate hash runId rounds rounds with
  | none => return .waiting
  | some .cancel => cancelRun hash runId
  | some _ => decideAndAct hash runId modes signal event trigger canonicalSignal source rounds

/-- The `try` block of `_execute_run`. -/
def runStages (session : RunSession) (signal : Dict)
    (scenarioKey : Option String) (rounds : Nat) : Coord RunEnd := do
  let (signal, event) ← ingestSignal hash runId session signal scenarioKey
  match ← ask (.detectTrigger event) with
  | none => endWithoutTrigger hash runId
  | some trigger => passTrigger hash runId modes signal event trigger rounds

/-- The `except` block of `_execute_run`; what it records is not allowed to
raise. -/
def recordFailure (e : PyError) : Recording Unit := do
  tryCatch
    (appendRunEvent hash
      { runId, stage := "failed", eventType := "run_failed", payload := [("error", .str e.text)]
        summary := some [("status", .str "failed")], status := some "failed" })
    fun _ => return ()
  tryCatch
    (updateSession runId
      { stage := some "failed", status := some "failed", pendingPauseStage := some none
        error := some e.text })
    fun _ => return ()

def executeRun (signal : Dict) (scenarioKey : Option String)
    (rounds : Nat) : Coord Unit := do
  match ← getRunSession runId with
  | none => return ()
  | some session =>
    let ended ← tryCatch
      (runStages hash runId modes session signal scenarioKey rounds)
      fun e => do
        recordFailure hash runId e
        return .returned
    match ended with
    | .waiting => return ()
    | .returned => perform .finalizeRun

end

/-- The length of a character in a JSON text with `ensure_ascii`. -/
def escapedLength (c : Char) : Nat :=
  if c == '"' || c == '\\' || c == '\n' || c == '\r' || c == '\t' || c.toNat == 8 ||
      c.toNat == 12 then 2
  else if 0x20 ≤ c.toNat && c.toNat ≤ 0x7E then 1
  else if c.toNat < 0x10000 then 6
  else 12

/-- The length of `json.dumps(text)`. -/
def dumpsTextLength (text : String) : Nat := 2 + (text.toList.map escapedLength).sum

mutual

/-- The length of `json.dumps(value)`. -/
def dumpsLength : Json → Nat
  | .null => 4
  | .bool b => if b then 4 else 5
  | .int n => (toString n).length
  | .float neg mant exp => (floatRepr neg mant exp).length
  | .str text => dumpsTextLength text
  | .arr items => 2 + dumpsItems items
  | .obj members => 2 + dumpsMembers members

def dumpsItems : List Json → Nat
  | [] => 0
  | [item] => dumpsLength item
  | item :: rest => dumpsLength item + 2 + dumpsItems rest

def dumpsMembers : List (String × Json) → Nat
  | [] => 0
  | [(key, value)] => dumpsTextLength key + 2 + dumpsLength value
  | (key, value) :: rest => dumpsTextLength key + 2 + dumpsLength value + 2 + dumpsMembers rest

end

def operatorContext (payload : Dict) : Json :=
  let raw := membersAt payload "_operator"
  let operatorId := pyStrip (textOrEmpty raw "operator_id")
  if operatorId == "" then .null
  else .obj
    [("operator_id", .str operatorId),
     ("roles", match raw.get? "roles" with
        | some (.arr roles) => .arr (roles.map fun role => .str (pyStr role))
        | _ => .arr []),
     ("source", .str (pyStr (orElse (raw.get? "source") (.str "unknown")))),
     ("source_ip", valueAt raw "source_ip")]

/-- `_validate_steering_command`; `cap` is `_STEERING_PAYLOAD_CAP_BYTES`. -/
def validateSteeringCommand (cap : Nat) (session : RunSession) (commandType : String)
    (payload : Dict) : Except PyError Unit := do
  let effective := match session.pendingPauseStage with
    | some stage => if stage = "" then session.stage else stage
    | none => session.stage
  let notAllowed := "steering command " ++ pyRepr commandType ++ " is not allowed at stage " ++
    pyRepr effective ++ " (run stage " ++ pyRepr session.stage ++ "). "
  rejectIf (decide (cap < dumpsLength (.obj payload)))
    ⟨.valueError, "steering payload exceeds " ++ toString cap ++
      " bytes (cap from MESH_MAX_STEERING_PAYLOAD_BYTES)"⟩
  if finalStages.contains session.stage then
    rejectIf (!(["attach_note", "override_review", "postmortem_review"].contains commandType))
      ⟨.valueError, "steering command " ++ pyRepr commandType ++ " is not allowed after run is " ++
        pyRepr session.stage ++
        "; only attach_note, override_review, and postmortem_review are permitted."⟩
  else if commandType == "explain_blockers" then
    rejectIf (effective != "evaluation_ready") ⟨.valueError, notAllowed ++
      "Hermes explanation is accepted only when the run is paused at evaluation_ready."⟩
  else if commandType == "chat_with_hermes" then do
    rejectIf (effective != "evaluation_ready") ⟨.valueError, notAllowed ++
      "Hermes blocker chat is accepted only when the run is paused at evaluation_ready."⟩
    rejectIf (isBlank (((payload.get? "message").map pyStr).getD ""))
      ⟨.valueError, "chat_with_hermes requires a non-empty message"⟩
  else if !steeringDecisionCommands.contains commandType then
    return ()
  else
    rejectIf (["ingesting", "trigger_ready"].contains effective || effective == "feedback_ready" ||
        ["executing", "feedback_ready"].contains session.stage)
      ⟨.valueError, notAllowed ++
        "Decision and execution-parameter overrides are only accepted when the run is paused at " ++
        "evaluation_ready, before actuation."⟩

section

variable (hash : MerkleHash) (runId : String)

/-- The end of `steer_run` for a command that the run itself has to take. -/
def queueCommand (command : SteeringCommand) (eventId : String) (operator : Json) :
    Recording Unit := do
  let tracked ← perform .getControl
  if !tracked then
    Raising.ofExcept (.error ⟨.keyError, pyRepr runId⟩)
  else
    if ["approve", "resume", "override_decision", "override_execution_parameters"].contains
        command.commandType then
      onStore (FileStateStore.recordApproval runId (.obj
        [("event_id", .str eventId), ("command_id", .str command.commandId),
         ("command_type", .str command.commandType), ("issued_at", .str command.issuedAt),
         ("payload", .obj command.payload), ("operator", operator)]))
    else pure ()
    if ["explain_blockers", "chat_with_hermes"].contains command.commandType then
      ask (.steeringRecord command.commandType command.payload)
    else
      if ["handoff", "cancel"].contains command.commandType then
        ask (.steeringRecord command.commandType command.payload)
      else pure ()
      perform (.pushCommand command)

def steerRun (cap : Nat) (payload : Dict) : Recording Unit := do
  let requested := valueAt payload "command"
  if ← Raising.ofExcept (inTexts requested allowedSteeringCommands) then
    let commandType := pyStr requested
    let operator := operatorContext payload
    match ← getRunSession runId with
    | none => Raising.ofExcept (.error ⟨.keyError, pyRepr runId⟩)
    | some session =>
      let commandPayload := (payload.pop "command").pop "_operator"
      Raising.ofExcept (validateSteeringCommand cap session commandType commandPayload)
      let reviews := ["override_review", "postmortem_review"].contains commandType
      if reviews then ask (.reviewRecord commandType commandPayload) else pure ()
      let stamp ← onStore FileStateStore.timestamp
      let issuedAt ← onStore FileStateStore.timestamp
      let command : SteeringCommand :=
        { commandId := "cmd_" ++ stamp ++ "_" ++ toString (session.operatorNotes.length + 1)
          runId, commandType, issuedAt, payload := commandPayload }
      let commandEvent ← onStore (FileStateStore.appendRunEvent hash
        { runId, stage := session.stage, eventType := "steering_command"
          payload := [("command_id", .str command.commandId), ("run_id", .str runId),
            ("command_type", .str commandType), ("issued_at", .str issuedAt),
            ("payload", .obj commandPayload), ("operator", operator)]
          summary := some [("command", .str commandType),
            ("operator_id", valueAt (operator.asObj?.getD []) "operator_id")]
          artifactKey := some "operator_command", status := some "received" })
      if reviews then
        ask (.steeringRecord commandType commandPayload)
      else if commandType == "attach_note" && truthyAt commandPayload "note" then
        let now ← onStore FileStateStore.timestamp
        let _ ← onStore (FileStateStore.saveRunSession
          { session with
            operatorNotes := session.operatorNotes ++ [pyStr (valueAt commandPayload "note")]
            updatedAt := now } (some session))
        return ()
      else
        queueCommand runId command commandEvent.eventId operator
  else
    Raising.ofExcept (valueError ("unsupported steering command: " ++ pyStr requested))

/-- `apply_kill_switch`, as far as it concerns one run. -/
def applyKillSwitch (payload : Dict) : Recording Unit := do
  let watchers := valueAt payload "watchers"
  let stopWatchers ← if payload.get? "stop_watchers" = some (.bool true) then pure true
    else Raising.ofExcept (inTexts watchers ["stop", "pause"])
  let disable := decide (payload.get? "disable_live_execution" = some (.bool true) ∨
    payload.get? "live_execution_enabled" = some (.bool false))
  let clear := decide (payload.get? "clear_namespace_allowlist" = some (.bool true))
  let force := decide (payload.get? "force_approval_gate" = some (.bool true))
  if stopWatchers then ask .stopWatchers else pure ()
  if disable then ask .disableLiveExecution else pure ()
  if clear then ask .clearNamespaceAllowlist else pure ()
  if force then perform .forceApprovalGate else pure ()
  ask (.killSwitchArtifact
    ((if stopWatchers then ["watchers_stopped"] else []) ++
      (if disable then ["live_execution_disabled"] else []) ++
      (if clear then ["namespace_allowlist_cleared"] else []) ++
      (if force then ["approval_gate_forced"] else [])))

inductive OperatorCall where
  | steer (cap : Nat) (payload : Dict)
  | killSwitch (payload : Dict)
  | setAutoMode (enabled : Bool)
  | setPausePoints (stages : List String)

def OperatorCall.program : OperatorCall → Recording Unit
  | .steer cap payload => steerRun hash runId cap payload
  | .killSwitch payload => applyKillSwitch payload
  | .setAutoMode enabled => perform (.setAutoMode enabled)
  | .setPausePoints stages => perform (.setPausePoints stages)

end

end OrbitalMesh
