import OrbitalMesh.Base.Binary64
import OrbitalMesh.Bridge.Schema

/-!
# The investigation harness

A planner asks for diagnostic tools; a critic lets through what is registered,
allowed, well formed and new; the registry invokes what is left, and the loop stops
when the planner says so, when nothing is left to invoke, when the budget is spent, or
after so many rounds.  The planner may be a language model: it is any function of the
state, which it reads and does not change.  Times are left out.
-/

namespace OrbitalMesh.Investigation

/-- `ToolDefinition`, as far as the harness reads it. -/
structure ToolDefinition where
  name : String
  domain : String
  argsSchema : Dict
  mutationClass : String := "read_only"
  /-- a finite number -/
  budgetCost : ℚ := 1

structure ToolCall where
  callId : String
  toolName : String
  domain : String
  args : Dict
  purpose : String := ""
deriving DecidableEq

variable (call : ToolCall)

def ToolCall.qualifiedName : String := call.domain ++ ":" ++ call.toolName

structure ToolResult where
  callId : String
  toolName : String
  domain : String
  status : String
  valid : Bool
  outputSummary : String
  citations : List Dict
  redactionStatus : String
  error : Option String
  output : Json

structure LoopRejection where
  callId : String
  qualifiedName : String
  reason : String
  details : Dict
deriving DecidableEq

inductive LoopAction where
  | proceed
  | stop
deriving DecidableEq

structure LoopDecision where
  action : LoopAction
  nextCalls : List ToolCall := []
  reason : String := ""
  confidence : Binary64 := .finite 0
  debug : Dict := []

abbrev Verdict := ToolCall × Option LoopRejection

/-- An entry of `planner_decisions`. -/
structure DecisionTrace where
  iteration : Int
  action : LoopAction
  reason : String
  confidence : Binary64
  plannedCalls : List ToolCall
  /-- of the planned calls, in their order; none where the critic is not asked -/
  verdicts : List Verdict
  debug : Dict

def approvedOf (verdicts : List Verdict) : List ToolCall :=
  verdicts.filterMap fun verdict => if verdict.2.isNone then some verdict.1 else none

/-- `InvestigationLoopState`. -/
structure LoopState where
  triggerId : String
  iteration : Int := 0
  budgetRemaining : Binary64
  toolCalls : List ToolCall := []
  toolResults : List ToolResult := []
  observedText : List String := []
  rejections : List LoopRejection := []
  plannerDecisions : List DecisionTrace := []
  stopReason : Option String := none

def LoopState.record (state : LoopState) (call : ToolCall) (result : ToolResult) : LoopState :=
  { state with
    toolCalls := state.toolCalls ++ [call], toolResults := state.toolResults ++ [result],
    observedText := if result.outputSummary = "" then state.observedText
      else state.observedText ++ [result.outputSummary] }

/-- `sorted(texts)`. -/
def sortTexts (texts : List String) : List String :=
  texts.insertionSort fun a b => Json.keyLe a b = true

def stableArgsSignature (args : Dict) : String :=
  String.join (((sortTexts (args.map (·.1))).map fun key =>
    key ++ "=" ++ pyStr ((args.get? key).getD .null)).intersperse ",")

/-- Domain, name and flattened arguments. -/
abbrev Signature := String × String × String

def signatureOf : Signature :=
  (call.domain, call.toolName, stableArgsSignature call.args)

def LoopState.callSignatures (state : LoopState) : List Signature :=
  state.toolCalls.map signatureOf

structure RawToolOutput where
  output : Json := .null
  outputSummary : String := ""
  citations : List Dict := []
  valid : Bool := true
  redactionStatus : String := "clean"
  status : String := "completed"
  error : Option String := none

abbrev ToolFn := Dict → Except String RawToolOutput

structure ToolRegistry where
  tools : List (ToolDefinition × ToolFn) := []

namespace ToolRegistry

variable (registry : ToolRegistry)

def get (domain name : String) : Option (ToolDefinition × ToolFn) :=
  registry.tools.find? fun entry => entry.1.domain == domain && entry.1.name == name

variable (call : ToolCall)

def failureResult (status error : String) : ToolResult :=
  { callId := call.callId, toolName := call.toolName, domain := call.domain, status := status,
    valid := false, outputSummary := "", citations := [], redactionStatus := "clean",
    error := some error, output := .null }

def invoke : ToolResult :=
  match registry.get call.domain call.toolName with
  | none => failureResult call "rejected" ("tool " ++ call.qualifiedName ++ " not registered")
  | some (_, fn) =>
    match fn call.args with
    | .error error => failureResult call "failed" error
    | .ok raw =>
      { callId := call.callId, toolName := call.toolName, domain := call.domain,
        status := raw.status, valid := raw.valid, outputSummary := raw.outputSummary,
        citations := raw.citations, redactionStatus := raw.redactionStatus,
        error := raw.error, output := raw.output }

def costOf : ℚ :=
  match registry.get call.domain call.toolName with
  | some (definition, _) => definition.budgetCost
  | none => 1

end ToolRegistry

/-- `_TYPE_NAME_TO_CHECK`; what it does not name is anything. -/
def checkType (expected : String) (value : Json) : Bool :=
  match expected, value with
  | "str", .str _ | "int", .int _ | "float", .int _ | "float", .float .. | "bool", .bool _
  | "dict", .obj _ | "list", .arr _ => true
  | expected, _ => expected ∉ ["str", "int", "float", "bool", "dict", "list"]

/-- `str(field_schema.get("type") or "any").lower()`. -/
def expectedType (fieldSchema : Dict) : String :=
  match fieldSchema.get? "type" with
  | some value => if truthy value then (pyStr value).toLower else "any"
  | none => "any"

/-- A field of the schema, in `_validate_args`. -/
def fieldViolations (args : Dict) : String × Json → List String
  | (name, .obj fieldSchema) =>
    match args.get? name with
    | none =>
      if truthyAt fieldSchema "required" then ["missing required arg " ++ pyRepr name] else []
    | some .null =>
      if truthyAt fieldSchema "nullable" then [] else [name ++ " must not be null"]
    | some value =>
      if checkType (expectedType fieldSchema) value then []
      else [name ++ " must be " ++ expectedType fieldSchema ++ ", got " ++ typeName value]
  | _ => []

def validateArgs (args schema : Dict) : List String :=
  let extra := (args.map (·.1)).filter fun key => (schema.get? key).isNone
  schema.flatMap (fieldViolations args) ++
    (if extra = [] ∨ schema = [] then []
     else ["unknown args: " ++ jsonRepr (.arr ((sortTexts extra.dedup).map .str))])

structure LoopCritic where
  registry : ToolRegistry
  allowed : List String := ["read_only"]

def rejection (reason : String) (details : Dict) : LoopRejection :=
  { callId := call.callId, qualifiedName := call.qualifiedName, reason := reason,
    details := details }

namespace LoopCritic

variable (critic : LoopCritic)

def checkCall (call : ToolCall) (seen : List Signature) : Option LoopRejection :=
  match critic.registry.get call.domain call.toolName with
  | none => some (rejection call "tool_not_registered" [])
  | some (definition, _) =>
    if definition.mutationClass ∉ critic.allowed then
      some (rejection call "mutation_class_not_allowed"
        [("mutation_class", .str definition.mutationClass),
          ("allowed", .arr ((sortTexts critic.allowed.dedup).map .str))])
    else if signatureOf call ∈ seen then some (rejection call "duplicate_call" [])
    else
      let violations := validateArgs call.args definition.argsSchema
      if violations = [] then none
      else some (rejection call "invalid_args" [("violations", .arr (violations.map .str))])

/-- The loop of `review`. -/
def judge : List Signature → List ToolCall → List Verdict
  | _, [] => []
  | seen, call :: rest =>
    match critic.checkCall call seen with
    | some rejection => (call, some rejection) :: judge seen rest
    | none => (call, none) :: judge (signatureOf call :: seen) rest

/-- What `review` makes of the decision and of the verdicts on its calls. -/
def narrowed (decision : LoopDecision) (verdicts : List Verdict) : LoopDecision :=
  if decision.nextCalls ≠ [] ∧ approvedOf verdicts = [] then
    { action := .stop, reason := "critic_rejected_all_calls", confidence := decision.confidence }
  else
    { action := decision.action, nextCalls := approvedOf verdicts, reason := decision.reason,
      confidence := decision.confidence }

/-- `review`: the decision that is left, and the verdicts. -/
def review (state : LoopState) (decision : LoopDecision) : LoopDecision × List Verdict :=
  let verdicts := critic.judge state.callSignatures decision.nextCalls
  (narrowed decision verdicts, verdicts)

end LoopCritic

/-- `max(0.0, budget_remaining - cost)`. -/
def pay (budget : Binary64) (cost : ℚ) : Binary64 :=
  Binary64.greatest (.finite 0) (budget.sub (.finite cost))

/-- `budget_remaining <= 0`. -/
def spent (budget : Binary64) : Bool := budget.le (.finite 0)

/-- A round of `for call in filtered.next_calls`. -/
def invokeCall (registry : ToolRegistry) (state : LoopState) (call : ToolCall) : LoopState :=
  { state.record call (registry.invoke call) with
    budgetRemaining := pay state.budgetRemaining (registry.costOf call) }

/-- `for call in filtered.next_calls`. -/
def invokeCalls (registry : ToolRegistry) : LoopState → List ToolCall → LoopState
  | state, [] => state
  | state, call :: rest =>
    let next := invokeCall registry state call
    if spent next.budgetRemaining then next else invokeCalls registry next rest

/-- `_decision_trace`, with the verdicts that are filled in later. -/
def decisionTrace (iteration : Int) (decision : LoopDecision) (verdicts : List Verdict) :
    DecisionTrace :=
  { iteration := iteration, action := decision.action, reason := decision.reason,
    confidence := decision.confidence, plannedCalls := decision.nextCalls, verdicts := verdicts,
    debug := decision.debug }

/-- `text or other`. -/
def textOr (text other : String) : String := if text = "" then other else text

/-- `LoopPlanner.plan`; the context of the trigger does not change in a run. -/
abbrev LoopPlanner := LoopState → LoopDecision

def round (planner : LoopPlanner) (critic : LoopCritic) (state : LoopState) : Bool × LoopState :=
  if spent state.budgetRemaining then
    (false, { state with stopReason := some "budget_exhausted" })
  else
    let decision := planner state
    if decision.action = .stop then
      (false, { state with
        plannerDecisions := state.plannerDecisions ++ [decisionTrace state.iteration decision []]
        stopReason := some (textOr decision.reason "planner_requested_stop") })
    else
      let (filtered, verdicts) := critic.review state decision
      let noted := { state with
        plannerDecisions :=
          state.plannerDecisions ++ [decisionTrace state.iteration decision verdicts]
        rejections := state.rejections ++ verdicts.filterMap (·.2) }
      if filtered.action = .stop then
        (false, { noted with
          stopReason := some (textOr filtered.reason "critic_rejected_all_calls") })
      else if filtered.nextCalls = [] then
        (false, { noted with stopReason := some "planner_returned_no_calls" })
      else
        let invoked := invokeCalls critic.registry noted filtered.nextCalls
        (true, { invoked with iteration := invoked.iteration + 1 })

def loop (planner : LoopPlanner) (critic : LoopCritic) : Nat → LoopState → LoopState
  | 0, state => state
  | rounds + 1, state =>
    match round planner critic state with
    | (false, final) => final
    | (true, next) => loop planner critic rounds next

def runInvestigationLoop (planner : LoopPlanner) (critic : LoopCritic) (maxIterations : Int)
    (state : LoopState) : LoopState :=
  let final := loop planner critic (maxIterations - state.iteration).toNat state
  if final.stopReason.isNone then { final with stopReason := some "iteration_cap_reached" }
  else final

end OrbitalMesh.Investigation
