import Mathlib.Data.Nat.Log
import OrbitalMesh.Base.Rounding
import OrbitalMesh.Decision.Proposals
import OrbitalMesh.Investigation.Harness

/-!
# A language model as the planner of an investigation

`LlmProbeSelector` asks a provider which tool to call next.  The provider of
`build_llm_decision_provider` sends the context to a chat client and reads a proposal out of
the answer: an object in the text, in a fence or among prose.  The selector then reads the
proposal's action, confidence and reason, and looks the tool up among the tools that only read.
-/

namespace OrbitalMesh.Investigation

open OrbitalMesh.Decision

/-- An exception: `type(exc).__name__` and `str(exc)`. -/
structure Raised where
  typeName : String
  text : String

/-- `10 ** e`. -/
def tenTo (e : Int) : ℚ :=
  if 0 ≤ e then ((10 ^ e.toNat : Nat) : ℚ) else 1 / ((10 ^ (-e).toNat : Nat) : ℚ)

/-- The multiples of `unit` on both sides of `x`, the nearer one first. -/
def multiplesAround (x unit : ℚ) : List Nat :=
  let below := (x / unit).floor.toNat
  if x / unit - below ≤ 1 / 2 then [below, below + 1] else [below + 1, below]

/-- The shortest decimal that is read as `x`, searched from the place of its first digit on. -/
def shortestFrom (x : ℚ) : Nat → Int → Nat × Int
  | 0, place => (0, place)
  | places + 1, place =>
    let reads (m : Nat) : Bool := Binary64.nearest (m * tenTo place) == .finite x
    match (multiplesAround x (tenTo place)).find? reads with
    | some m => (m, place)
    | none => shortestFrom x places (place - 1)

/-- `repr(x)`.  Seventeen digits are enough for a double, and the first is at most one place
off. -/
def doubleRepr : Binary64 → String
  | .finite x =>
    if x = 0 then "0.0"
    else
      let size := Binary64.magnitude x
      let first : Int := (Nat.log 10 size.num.natAbs : Int) - Nat.log 10 size.den + 1
      let (mant, exp) := shortestFrom size 20 first
      floatRepr (decide (x < 0)) mant exp
  | .infinite neg => if neg then "-inf" else "inf"
  | .nan => "nan"

mutual

/-- `repr(value)`. -/
def loadedRepr : Loaded → String
  | .null => "None"
  | .bool true => "True"
  | .bool false => "False"
  | .int n => toString n
  | .float x => doubleRepr x
  | .str text => pyRepr text
  | .arr items => "[" ++ ", ".intercalate (loadedReprs items) ++ "]"
  | .obj members => "\x7b" ++ ", ".intercalate (loadedMemberReprs members) ++ "\x7d"

def loadedReprs : List Loaded → List String
  | [] => []
  | item :: rest => loadedRepr item :: loadedReprs rest

def loadedMemberReprs : List (String × Loaded) → List String
  | [] => []
  | (key, value) :: rest => (pyRepr key ++ ": " ++ loadedRepr value) :: loadedMemberReprs rest

end

/-- `str(value)`. -/
def loadedStr : Loaded → String
  | .str text => text
  | value => loadedRepr value

/-- `str(d.get(key) or default)`. -/
def loadedText (d : LoadedDict) (key default : String) : String :=
  loadedStr (loadedOr d key (.str default))

/-- `value.get(key, default)`. -/
def memberOf (value : Loaded) (key : String) (default : Loaded) : Except Raised Loaded :=
  match value with
  | .obj members => .ok ((members.lookup key).getD default)
  | value =>
    .error ⟨"AttributeError", "'" ++ value.typeName ++ "' object has no attribute 'get'"⟩

variable (reading : TextReading)

/-- `float(value)`. -/
def loadedFloat : Loaded → Except Raised Binary64
  | .float x => .ok x
  | .bool b => .ok (.finite (if b then 1 else 0))
  | .int n =>
    match Binary64.nearest n with
    | .infinite _ => .error ⟨"OverflowError", "int too large to convert to float"⟩
    | x => .ok x
  | .str text =>
    match reading.float text with
    | some x => .ok x
    | none => .error ⟨"ValueError", "could not convert string to float: " ++ pyRepr text⟩
  | value =>
    .error ⟨"TypeError", "float() argument must be a string or a real number, not '" ++
      value.typeName ++ "'"⟩

/-- Three back quotes. -/
def ticks : List Char := "\x60\x60\x60".toList

/-- `text.split("\x60\x60\x60")`. -/
def splitTicks : List Char → List (List Char)
  | '\x60' :: '\x60' :: '\x60' :: rest => [] :: splitTicks rest
  | c :: rest =>
    match splitTicks rest with
    | first :: others => (c :: first) :: others
    | [] => [[c]]
  | [] => [[]]

/-- A chunk between fences, without the word `json` in front. -/
def withoutLanguage (chunk : List Char) : List Char :=
  if "json".toList <+: dropSpaces chunk then (dropSpaces chunk).drop 4 else chunk

def proposalTexts (raw : List Char) : List (List Char) :=
  (if ticks <:+: raw then (splitTicks raw).map withoutLanguage else []) ++ [raw]

/-- What `json.loads` does: a value, none where the text is not JSON, or another exception. -/
abbrev Loader := List Char → Except Raised (Option Loaded)

def firstProposal (loads : Loader) : List (List Char) → Except Raised (Option LoadedDict)
  | [] => .ok none
  | text :: rest =>
    match braced text with
    | none => firstProposal loads rest
    | some body =>
      match loads body with
      | .error e => .error e
      | .ok (some (.obj parsed)) => .ok (some parsed)
      | .ok _ => firstProposal loads rest

def stopProposal (reason : String) : LoadedDict :=
  [("action", .str "stop"), ("reason", .str reason), ("confidence", .float (.finite 0))]

/-- How `_parse_proposal` fails on an answer that is not a text. -/
def notText (value : Loaded) : Raised :=
  let noSplit : Raised :=
    ⟨"AttributeError", "'" ++ value.typeName ++ "' object has no attribute 'split'"⟩
  let noSearch : Raised :=
    ⟨"TypeError", "expected string or bytes-like object, got '" ++ value.typeName ++ "'"⟩
  match value with
  | .arr items =>
    if items.any fun item => match item with
      | .str text => text.toList == ticks
      | _ => false then noSplit else noSearch
  | .obj members => if (members.lookup (String.ofList ticks)).isSome then noSplit else noSearch
  | value => ⟨"TypeError", "argument of type '" ++ value.typeName ++ "' is not iterable"⟩

variable (loads : Loader)

def parseProposal (raw : Loaded) : Except Raised LoadedDict :=
  if !raw.truthy then .ok (stopProposal "llm_planner_empty_response")
  else
    match raw with
    | .str text => do
      let found ← firstProposal loads (proposalTexts text.toList)
      return found.getD (stopProposal "llm_planner_unparseable_response")
    | value => .error (notText value)

variable (response : Loaded)

/-- `response.get("choices", [{}])[0]`. -/
def firstChoice : Except Raised Loaded := do
  match ← memberOf response "choices" (.arr [.obj []]) with
  | .arr (choice :: _) => .ok choice
  | .arr [] => .error ⟨"IndexError", "list index out of range"⟩
  | .str text =>
    match text.toList with
    | c :: _ => .ok (.str (String.singleton c))
    | [] => .error ⟨"IndexError", "string index out of range"⟩
  | .obj _ => .error ⟨"KeyError", "0"⟩
  | value => .error ⟨"TypeError", "'" ++ value.typeName ++ "' object is not subscriptable"⟩

def contentOf : Except Raised Loaded := do
  let choice ← firstChoice response
  let message ← memberOf choice "message" (.obj [])
  memberOf message "content" (.str "")

structure RootCauseCandidate where
  rootCause : String
  confidence : Binary64
  matchedPatterns : List String
  supportingTools : List String := []

/-- `_llm_selector_context`. -/
structure SelectorContext where
  triggerContext : Dict
  calledTools : List String
  observedText : List String
  rootCauseCandidates : List Loaded
  availableTools : List ToolDefinition

abbrev DecisionProvider := SelectorContext → Except Raised LoadedDict

/-- Sending the context to the model: `json.dumps` and `chat_completion`. -/
abbrev ChatClient := SelectorContext → Except Raised Loaded

structure PlannerConfig where
  observerEnabled : Bool
  observerApiKey : String

/-- `provider`. -/
def askModel (client : ChatClient) (loads : Loader) : DecisionProvider := fun context =>
  match client context with
  | .error e => .ok (stopProposal ("llm_planner_error:" ++ e.typeName))
  | .ok response => do parseProposal loads (← contentOf response)

def buildLlmDecisionProvider (config : PlannerConfig) (client : ChatClient) (loads : Loader) :
    Option DecisionProvider :=
  if config.observerEnabled && config.observerApiKey != "" then some (askModel client loads)
  else none

def RootCauseCandidate.toDict (candidate : RootCauseCandidate) (rank : Nat) : Loaded :=
  .obj [("rank", .int rank),
    ("root_cause", .str candidate.rootCause),
    ("confidence", .float candidate.confidence),
    ("matched_patterns", .arr (candidate.matchedPatterns.map .str)),
    ("supporting_tools", .arr (candidate.supportingTools.map .str)),
    ("citation_ids", .arr [.str ("rca_ontology:" ++ candidate.rootCause)])]

def supportingTools (patterns : List String) (observed : List (String × String)) :
    List String :=
  sortedSet ((observed.filter fun output => patterns.any fun pattern =>
    pattern.toLower.toList <:+: output.2.toLower.toList).map Prod.fst)

/-- `ObservationIndex`, as far as the selector reads it. -/
structure ObservationIndex where
  triggerContext : Dict
  calledToolNames : List String
  observedText : List String
  rootCauseCandidates : List RootCauseCandidate

abbrev RootCauseRanker := List String → List RootCauseCandidate

def ObservationIndex.fromState (state : LoopState) (triggerContext : Dict)
    (ranker : Option RootCauseRanker) : ObservationIndex where
  triggerContext := triggerContext
  calledToolNames := sortedSet (state.toolCalls.map ToolCall.toolName)
  observedText := state.observedText
  rootCauseCandidates :=
    let observed := (state.toolResults.filter (·.outputSummary != "")).map
      fun result => (result.toolName, result.outputSummary)
    ((ranker.map fun rank => rank state.observedText).getD []).map fun cause =>
      { cause with supportingTools := supportingTools cause.matchedPatterns observed }

/-- The first three candidates, with their ranks. -/
def ObservationIndex.topCandidates (index : ObservationIndex) : List Loaded :=
  ((index.rootCauseCandidates.take 3).zipIdx 1).map fun entry => entry.1.toDict entry.2

/-- `_selector_debug`, for a model. -/
def selectorDebug (index : ObservationIndex) (enabled : Bool) : LoadedDict :=
  [("selector_mode", .str "llm"),
    ("called_tools", .arr (index.calledToolNames.map .str)),
    ("observed_text_count", .int index.observedText.length),
    ("root_cause_candidates", .arr index.topCandidates),
    ("top_root_cause", match index.rootCauseCandidates with
      | top :: _ => top.toDict 1
      | [] => .null),
    ("enabled", .bool enabled)]

def ToolDefinition.qualifiedName (tool : ToolDefinition) : String :=
  tool.domain ++ ":" ++ tool.name

/-- A call that the selector asks for; its identifier and its time are left out. -/
structure ProbeCall where
  toolName : String
  domain : String
  args : LoadedDict
  purpose : String

def makeCall (tool : ToolDefinition) (args : LoadedDict) (purpose : String) : ProbeCall :=
  { toolName := tool.name, domain := tool.domain, args := args, purpose := purpose }

/-- `LoopDecision`, with what the model proposed. -/
structure ProbeDecision where
  action : LoopAction
  nextCalls : List ProbeCall := []
  reason : String
  confidence : Binary64
  debug : LoadedDict

structure LlmProbeSelector where
  domain : String
  rootCauseRanker : Option RootCauseRanker
  definitions : List ToolDefinition
  decisionProvider : Option DecisionProvider
  enabled : Bool

namespace LlmProbeSelector

variable (selector : LlmProbeSelector)

def readOnly : List ToolDefinition :=
  selector.definitions.filter fun tool => tool.mutationClass == "read_only"

/-- `_tool_definitions.get(qualified)`; of two definitions the later one stays. -/
def toolNamed (qualified : String) : Option ToolDefinition :=
  selector.readOnly.reverse.find? fun tool => tool.qualifiedName == qualified

/-- `_unqualified_in_domain.get(name)`. -/
def toolInDomain (name : String) : Option ToolDefinition :=
  selector.readOnly.reverse.find? fun tool => tool.domain == selector.domain && tool.name == name

/-- `_tool_definitions.values()`. -/
def availableTools : List ToolDefinition :=
  ((selector.readOnly.map ToolDefinition.qualifiedName).eraseDups).filterMap selector.toolNamed

/-- `_llm_selector_context`. -/
def contextOf (index : ObservationIndex) : SelectorContext where
  triggerContext := index.triggerContext
  calledTools := index.calledToolNames
  observedText := index.observedText.drop (index.observedText.length - 8)
  rootCauseCandidates := index.topCandidates
  availableTools := selector.availableTools

variable (proposed : LoadedDict)

def proposedTool : String := loadedText proposed "tool_name" ""

/-- The qualified name of a proposal, with the domain of the rule pack where it names none. -/
def denoted : String :=
  let toolName := proposedTool proposed
  let proposedDomain := loadedText proposed "domain" ""
  if proposedDomain ≠ "" ∧ ':' ∉ toolName.toList then proposedDomain ++ ":" ++ toolName
  else if ':' ∈ toolName.toList then toolName
  else selector.domain ++ ":" ++ toolName

def resolved : Option ToolDefinition :=
  (selector.toolNamed (selector.denoted proposed)).or
    (selector.toolInDomain (proposedTool proposed))

def proposedArgs : LoadedDict :=
  match proposed.lookup "args" with
  | some (.obj args) => args
  | _ => []

def follow (reading : TextReading) (debug proposed : LoadedDict) :
    Except Raised ProbeDecision := do
  let confidence ← loadedFloat reading (loadedOr proposed "confidence" (.float (.finite 0)))
  let reason := loadedText proposed "reason" "llm_selector_proposed_stop"
  let debug := debug ++ [("proposal", .obj proposed)]
  if loadedText proposed "action" "stop" ≠ "continue" then
    return { action := .stop, reason := reason, confidence := confidence, debug := debug }
  else
    match selector.resolved proposed with
    | none => return {
        action := .stop
        reason := "llm_selector_invalid_tool"
        confidence := .finite 0
        debug := debug ++ [("resolved_qualified", .str (selector.denoted proposed))] }
    | some tool => return {
        action := .proceed
        nextCalls := [makeCall tool (proposedArgs proposed) reason]
        reason := reason
        confidence := confidence
        debug := debug ++ [("selected_tool", .str (proposedTool proposed))] }

def plan (reading : TextReading) (state : LoopState) (triggerContext : Dict) :
    Except Raised ProbeDecision :=
  let index := ObservationIndex.fromState state triggerContext selector.rootCauseRanker
  let debug := selectorDebug index selector.enabled
  match selector.enabled, selector.decisionProvider with
  | true, some provider =>
    match provider (selector.contextOf index) with
    | .error e => .ok {
        action := .stop
        reason := "llm_selector_provider_error:" ++ e.typeName
        confidence := .finite 0
        debug := debug ++ [("error", .str e.text)] }
    | .ok proposed => selector.follow reading debug proposed
  | _, _ => .ok {
      action := .stop
      reason := "llm_selector_disabled"
      confidence := .finite 0
      debug := debug }

def contextAt (state : LoopState) (triggerContext : Dict) : SelectorContext :=
  selector.contextOf (ObservationIndex.fromState state triggerContext selector.rootCauseRanker)

/-- The selector with the provider of `build_llm_decision_provider`. -/
def wired (config : PlannerConfig) (client : ChatClient) (loads : Loader) : LlmProbeSelector :=
  { selector with decisionProvider := buildLlmDecisionProvider config client loads }

end LlmProbeSelector

def objectIn : Loaded → Option LoadedDict
  | .str text =>
    match firstProposal loads (proposalTexts text.toList) with
    | .ok found => found
    | .error _ => none
  | _ => none

def carried : Option LoadedDict :=
  match contentOf response with
  | .ok content => objectIn loads content
  | .error _ => none

def Stops (answer : Except Raised LoadedDict) : Prop :=
  (∃ e, answer = .error e) ∨ ∃ reason, answer = .ok (stopProposal reason)

theorem parseProposal_spec (content : Loaded) :
    match objectIn loads content with
    | some proposed => parseProposal loads content = .ok proposed
    | none => Stops (parseProposal loads content) := by
  unfold parseProposal
  cases htruthy : content.truthy with
  | false =>
    cases content with
    | str text =>
      have hempty : text = "" := by simpa [Loaded.truthy] using htruthy
      subst hempty
      exact .inr ⟨_, rfl⟩
    | _ => exact .inr ⟨_, rfl⟩
  | true =>
    cases content with
    | str text =>
      cases hfound : firstProposal loads (proposalTexts text.toList) with
      | error e =>
        simp only [objectIn, hfound]
        exact .inl ⟨e, rfl⟩
      | ok found =>
        simp only [objectIn, hfound]
        cases found with
        | none => exact .inr ⟨_, rfl⟩
        | some proposed => rfl
    | _ => exact .inl ⟨_, rfl⟩

theorem askModel_spec (client : ChatClient) (loads : Loader) (context : SelectorContext) :
    match (client context).toOption.bind (carried loads) with
    | some proposed => askModel client loads context = .ok proposed
    | none => Stops (askModel client loads context) := by
  unfold askModel
  cases client context with
  | error e => exact .inr ⟨_, rfl⟩
  | ok response =>
    simp only [Except.toOption, Option.bind_some, carried]
    cases contentOf response with
    | error e => exact .inl ⟨e, rfl⟩
    | ok content => exact parseProposal_spec loads content

def isNumeral : Loaded → Bool
  | .float _ | .bool _ => true
  | .int n =>
    match Binary64.nearest n with
    | .infinite _ => false
    | _ => true
  | .str text => (reading.float text).isSome
  | _ => false

/-- The value is read as the double that is not a number. -/
def isNan : Loaded → Bool
  | .float x => x == .nan
  | .str text => reading.float text == some .nan
  | _ => false

variable {value : Loaded}

theorem loadedFloat_numeral {reading : TextReading} (h : isNumeral reading value = true) :
    ∃ x, loadedFloat reading value = .ok x ∧ (x = .nan ↔ isNan reading value = true) := by
  cases value with
  | float x => exact ⟨x, rfl, by simp [isNan]⟩
  | bool b => exact ⟨_, rfl, by simp [isNan]⟩
  | int n =>
    have hnan := Binary64.nearest_ne_nan (n : ℚ)
    simp only [isNumeral, loadedFloat] at h ⊢
    cases hnearest : Binary64.nearest n with
    | finite x => exact ⟨_, rfl, by simp [isNan]⟩
    | infinite neg => simp [hnearest] at h
    | nan => exact absurd hnearest hnan
  | str text =>
    obtain ⟨x, hx⟩ := Option.isSome_iff_exists.mp h
    exact ⟨x, by simp [loadedFloat, hx], by simp [isNan, hx]⟩
  | _ => cases h

theorem loadedFloat_not_numeral {reading : TextReading} (h : isNumeral reading value = false) :
    ∃ e, loadedFloat reading value = .error e := by
  cases value with
  | float x | bool b => cases h
  | int n =>
    simp only [isNumeral, loadedFloat] at h ⊢
    cases hnearest : Binary64.nearest n with
    | infinite neg => exact ⟨_, rfl⟩
    | _ => simp [hnearest] at h
  | str text =>
    have hnone : reading.float text = none := eq_none_of_isSome_eq_false h
    exact ⟨_, by rw [loadedFloat, hnone]⟩
  | _ => exact ⟨_, rfl⟩

section

variable {selector : LlmProbeSelector} {reading : TextReading} {debug proposed : LoadedDict}
  {qualified : String}

theorem toolNamed_some {tool : ToolDefinition} (h : selector.toolNamed qualified = some tool) :
    tool ∈ selector.definitions ∧ tool.mutationClass = "read_only" ∧
      tool.qualifiedName = qualified := by
  have hmem := List.mem_filter.mp (List.mem_reverse.mp (List.mem_of_find?_eq_some h))
  have hname := List.find?_some h
  exact ⟨hmem.1, by simpa using hmem.2, by simpa using hname⟩

theorem toolNamed_none (h : selector.toolNamed qualified = none) :
    ∀ tool ∈ selector.definitions, tool.mutationClass = "read_only" →
      tool.qualifiedName ≠ qualified := by
  intro tool hmem hreads hname
  have hout := List.find?_eq_none.mp h tool
    (List.mem_reverse.mpr (List.mem_filter.mpr ⟨hmem, by simpa using hreads⟩))
  exact hout (by simpa using hname)

/-- A decision on a proposal runs what the proposal names: a tool that only reads, with a
confidence that is a number. -/
def AsNamed (selector : LlmProbeSelector) (proposed : LoadedDict) (decision : ProbeDecision) :
    Prop :=
  ((∀ tool ∈ selector.definitions, tool.mutationClass = "read_only" →
      tool.qualifiedName ≠ selector.denoted proposed) → decision.action = .stop) ∧
  (decision.action = .proceed → ∃ tool ∈ selector.definitions,
    tool.mutationClass = "read_only" ∧ tool.qualifiedName = selector.denoted proposed ∧
    decision.nextCalls.map (fun call => (call.domain, call.toolName)) =
      [(tool.domain, tool.name)] ∧
    decision.confidence ≠ .nan)

theorem asNamed_of_stop {decision : ProbeDecision} (h : decision.action = .stop) :
    AsNamed selector proposed decision :=
  ⟨fun _ => h, fun hproceed => by rw [h] at hproceed; cases hproceed⟩

def proposedValue (proposed : LoadedDict) : Loaded :=
  loadedOr proposed "confidence" (.float (.finite 0))

/-- The confidence of the proposal is read as a number, and no tool of the rule pack's own domain
has the name without its domain. -/
def ReadsWell (selector : LlmProbeSelector) (reading : TextReading) (proposed : LoadedDict) :
    Prop :=
  isNumeral reading (proposedValue proposed) = true ∧
  (loadedText proposed "action" "stop" = "continue" →
    match selector.toolNamed (selector.denoted proposed) with
    | some _ => isNan reading (proposedValue proposed) = false
    | none => selector.toolInDomain (LlmProbeSelector.proposedTool proposed) = none)

theorem follow_iff :
    (∃ decision, selector.follow reading debug proposed = .ok decision ∧
      AsNamed selector proposed decision) ↔ ReadsWell selector reading proposed := by
  unfold LlmProbeSelector.follow ReadsWell
  cases hnumeral : isNumeral reading (proposedValue proposed) with
  | false =>
    obtain ⟨e, he⟩ := loadedFloat_not_numeral hnumeral
    rw [proposedValue] at he
    simp [he]
  | true =>
    obtain ⟨x, hx, hnan⟩ := loadedFloat_numeral hnumeral
    have hx' := hx
    rw [proposedValue] at hx'
    simp only [hx', ok_bind, true_and]
    by_cases haction : loadedText proposed "action" "stop" = "continue"
    · rw [if_neg (not_not_intro haction)]
      cases hnamed : selector.toolNamed (selector.denoted proposed) with
      | some tool =>
        obtain ⟨hmem, hreads, hname⟩ := toolNamed_some hnamed
        simp only [LlmProbeSelector.resolved, hnamed, Option.some_or]
        constructor
        · rintro ⟨decision, hdecision, -, hruns⟩ -
          cases hdecision
          obtain ⟨_, -, -, -, -, hnumber⟩ := hruns rfl
          exact eq_false_of_ne_true (mt hnan.mpr hnumber)
        · intro hwell
          refine ⟨_, rfl, fun hnone => absurd hname (hnone tool hmem hreads), fun _ => ?_⟩
          exact ⟨tool, hmem, hreads, hname, rfl, fun heq => by
            rw [hnan.mp heq] at hwell
            exact absurd (hwell haction) (by decide)⟩
      | none =>
        have hout := toolNamed_none hnamed
        simp only [LlmProbeSelector.resolved, hnamed, Option.none_or]
        cases hdomain : selector.toolInDomain (LlmProbeSelector.proposedTool proposed) with
        | none => exact ⟨fun _ _ => rfl, fun _ => ⟨_, rfl, asNamed_of_stop rfl⟩⟩
        | some tool =>
          constructor
          · rintro ⟨decision, hdecision, -, hruns⟩ -
            cases hdecision
            obtain ⟨other, hmem, hreads, hname, -⟩ := hruns rfl
            exact absurd hname (hout other hmem hreads)
          · intro hwell
            cases hwell haction
    · rw [if_pos haction]
      exact ⟨fun _ h => absurd h haction, fun _ => ⟨_, rfl, asNamed_of_stop rfl⟩⟩

end

variable (selector : LlmProbeSelector)

def proposalAt (client : ChatClient) (loads : Loader)
    (state : LoopState) (triggerContext : Dict) : Option LoadedDict :=
  (client (selector.contextAt state triggerContext)).toOption.bind (carried loads)

/-- The selector decides, and runs what the model names; without a proposal it stops. -/
def PlansAsNamed (config : PlannerConfig) (client : ChatClient)
    (loads : Loader) (reading : TextReading) (state : LoopState) (triggerContext : Dict) :
    Prop :=
  ∃ decision, (selector.wired config client loads).plan reading state triggerContext =
      .ok decision ∧
    match proposalAt selector client loads state triggerContext with
    | some proposed => AsNamed selector proposed decision
    | none => decision.action = .stop

/-- The model is asked. -/
def Asks (config : PlannerConfig) : Prop :=
  selector.enabled = true ∧ config.observerEnabled = true ∧ config.observerApiKey ≠ ""

section

variable {selector : LlmProbeSelector} {config : PlannerConfig}

theorem plan_of_not_asks (h : ¬Asks selector config) (client : ChatClient) (loads : Loader)
    (reading : TextReading) (state : LoopState) (triggerContext : Dict) :
    ∃ decision, (selector.wired config client loads).plan reading state triggerContext =
      .ok decision ∧ decision.action = .stop := by
  have hwired : (selector.wired config client loads).enabled = false ∨
      (selector.wired config client loads).decisionProvider = none := by
    by_contra hnot
    rw [not_or] at hnot
    refine h ⟨eq_true_of_ne_false hnot.1, ?_⟩
    have hprovider := hnot.2
    simp only [LlmProbeSelector.wired, buildLlmDecisionProvider] at hprovider
    split at hprovider
    · next hconfig => simpa using hconfig
    · exact absurd rfl hprovider
  unfold LlmProbeSelector.plan
  rcases hwired with hdisabled | hnone
  · simp only [hdisabled]
    exact ⟨_, rfl, rfl⟩
  · simp only [hnone]
    split
    · next hcontra => cases hcontra
    · exact ⟨_, rfl, rfl⟩

theorem plan_of_asks (h : Asks selector config) (client : ChatClient) (loads : Loader)
    (reading : TextReading) (state : LoopState) (triggerContext : Dict) :
    match askModel client loads (selector.contextAt state triggerContext) with
    | .ok proposed => ∃ debug,
        (selector.wired config client loads).plan reading state triggerContext =
          selector.follow reading debug proposed
    | .error _ => ∃ decision,
        (selector.wired config client loads).plan reading state triggerContext =
          .ok decision ∧ decision.action = .stop := by
  obtain ⟨henabled, hobserver, hkey⟩ := h
  have hprovider : buildLlmDecisionProvider config client loads =
      some (askModel client loads) := by
    simp [buildLlmDecisionProvider, hobserver, hkey]
  have hplan : (selector.wired config client loads).plan reading state triggerContext =
      match askModel client loads (selector.contextAt state triggerContext) with
      | .error e => .ok {
          action := .stop
          reason := "llm_selector_provider_error:" ++ e.typeName
          confidence := .finite 0
          debug := selectorDebug (ObservationIndex.fromState state triggerContext
            selector.rootCauseRanker) selector.enabled ++ [("error", .str e.text)] }
      | .ok proposed => selector.follow reading (selectorDebug (ObservationIndex.fromState state
          triggerContext selector.rootCauseRanker) selector.enabled) proposed := by
    unfold LlmProbeSelector.plan LlmProbeSelector.wired
    simp only [hprovider, henabled]
    rfl
  rw [hplan]
  cases askModel client loads (selector.contextAt state triggerContext) with
  | error e => exact ⟨_, rfl, rfl⟩
  | ok proposed => exact ⟨_, rfl⟩

theorem follow_stopProposal (selector : LlmProbeSelector) (reading : TextReading)
    (debug : LoadedDict) (reason : String) :
    ∃ decision, selector.follow reading debug (stopProposal reason) = .ok decision ∧
      decision.action = .stop :=
  ⟨_, rfl, rfl⟩

end

/-- **When the selector runs what the model names**: when it is not asked, or proposes nothing, or
its proposal reads well. -/
theorem plans_as_named_iff (config : PlannerConfig)
    (client : ChatClient) (loads : Loader) (reading : TextReading) (state : LoopState)
    (triggerContext : Dict) :
    PlansAsNamed selector config client loads reading state triggerContext ↔
      (Asks selector config → ∀ proposed,
        proposalAt selector client loads state triggerContext = some proposed →
        ReadsWell selector reading proposed) := by
  by_cases hasks : Asks selector config
  · have hplan := plan_of_asks hasks client loads reading state triggerContext
    have hanswer := askModel_spec client loads (selector.contextAt state triggerContext)
    rw [← proposalAt] at hanswer
    simp only [PlansAsNamed, hasks, true_imp_iff]
    cases hproposal : proposalAt selector client loads state triggerContext with
    | some proposed =>
      have hproposed : askModel client loads (selector.contextAt state triggerContext) =
          .ok proposed := by
        rw [hproposal] at hanswer
        exact hanswer
      rw [hproposed] at hplan
      obtain ⟨debug, hplan⟩ := hplan
      simp only [hplan, Option.some.injEq, forall_eq']
      exact follow_iff
    | none =>
      rw [hproposal] at hanswer
      refine ⟨fun _ _ h => (nomatch h), fun _ => ?_⟩
      rcases hanswer with ⟨e, he⟩ | ⟨reason, hreason⟩
      · rw [he] at hplan
        exact hplan
      · rw [hreason] at hplan
        obtain ⟨debug, hplan⟩ := hplan
        rw [hplan]
        exact follow_stopProposal selector reading debug reason
  · obtain ⟨decision, hplan, hstop⟩ := plan_of_not_asks hasks client loads reading state
      triggerContext
    refine ⟨fun _ h => absurd h hasks, fun _ => ⟨decision, hplan, ?_⟩⟩
    split
    · exact asNamed_of_stop hstop
    · exact hstop

def getResources : ToolDefinition :=
  { name := "GetResources", domain := "cloudops", argsSchema := [] }

def oneToolSelector : LlmProbeSelector where
  domain := "cloudops"
  rootCauseRanker := none
  definitions := [getResources]
  decisionProvider := none
  enabled := true

def keyedConfig : PlannerConfig := { observerEnabled := true, observerApiKey := "key" }

def saying (text : String) : ChatClient := fun _ =>
  .ok (.obj [("choices", .arr [.obj [("message", .obj [("content", .str text)])]])])

def loadsAs (text : String) (value : LoadedDict) : Loader := fun body =>
  .ok (if body = text.toList then some (.obj value) else none)

def wordsOnly : TextReading := ⟨fun _ => none, fun _ => none⟩

def wordText : String :=
  "\x7b\"action\": \"continue\", \"tool_name\": \"GetResources\", " ++
    "\"confidence\": \"high\"\x7d"

def wordProposal : LoadedDict :=
  [("action", .str "continue"), ("tool_name", .str "GetResources"), ("confidence", .str "high")]

def strangerText : String :=
  "\x7b\"action\": \"continue\", \"domain\": \"aws\", \"tool_name\": \"GetResources\"\x7d"

def strangerProposal : LoadedDict :=
  [("action", .str "continue"), ("domain", .str "aws"), ("tool_name", .str "GetResources")]

def firstRound : LoopState := { triggerId := "trg_search", budgetRemaining := .finite 6 }

set_option maxRecDepth 8192 in
theorem words_raise_and_strangers_run :
    ¬PlansAsNamed oneToolSelector keyedConfig (saying wordText) (loadsAs wordText wordProposal)
      wordsOnly firstRound [] ∧
    ¬PlansAsNamed oneToolSelector keyedConfig (saying strangerText)
      (loadsAs strangerText strangerProposal) wordsOnly firstRound [] := by
  constructor
  · rintro ⟨decision, hplan, -⟩
    have hraises : (oneToolSelector.wired keyedConfig (saying wordText)
        (loadsAs wordText wordProposal)).plan wordsOnly firstRound [] =
          .error ⟨"ValueError", "could not convert string to float: 'high'"⟩ := by rfl
    rw [hraises] at hplan
    cases hplan
  · rintro ⟨decision, hplan, hnamed⟩
    have hproposal : proposalAt oneToolSelector (saying strangerText)
        (loadsAs strangerText strangerProposal) firstRound [] = some strangerProposal := by rfl
    rw [hproposal] at hnamed
    have hruns : decision.action = .proceed := by
      cases hplan
      rfl
    obtain ⟨tool, hmem, -, hname, -⟩ := hnamed.2 hruns
    rw [List.mem_singleton.mp hmem] at hname
    exact absurd hname (by decide)

end OrbitalMesh.Investigation
