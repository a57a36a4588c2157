import OrbitalMesh.Base.Text
import OrbitalMesh.Decision.Trigger

/-!
# Proposals of a language model

`LlmActionProposer` asks a model what to do about a metric that no rule knows.  The
answer is a text; what can be read out of it is checked against a list of allowed
actions, and what passes becomes a decision like that of any rule.
-/

namespace OrbitalMesh.Decision

/-- A value that `json.loads` can return for a text that is not the program's own:
it also reads `NaN` and `Infinity`. -/
inductive Loaded where
  | null
  | bool (b : Bool)
  | int (n : Int)
  | float (x : Binary64)
  | str (s : String)
  | arr (items : List Loaded)
  | obj (members : List (String × Loaded))

abbrev LoadedDict := List (String × Loaded)

namespace Loaded

/-- `type(value).__name__`. -/
def typeName : Loaded → String
  | .null => "NoneType"
  | .bool _ => "bool"
  | .int _ => "int"
  | .float _ => "float"
  | .str _ => "str"
  | .arr _ => "list"
  | .obj _ => "dict"

/-- `bool(value)`. -/
def truthy : Loaded → Bool
  | .null => false
  | .bool b => b
  | .int n => n != 0
  | .float x => x != .finite 0
  | .str s => s != ""
  | .arr items => !items.isEmpty
  | .obj members => !members.isEmpty

/-- `isinstance(value, (int, float))`, with the number. -/
def number? : Loaded → Option Binary64
  | .bool b => some (.finite (if b then 1 else 0))
  | .int n => some (.finite n)
  | .float x => some x
  | _ => none

end Loaded

/-- `json.loads`, where the text is JSON. -/
abbrev Loads := List Char → Option Loaded

variable (text : List Char)

def dropSpaces : List Char := text.dropWhile isPySpace

/-- The shortest beginning that ends in a brace which closes a fence. -/
def untilFence : List Char → Option (List Char)
  | [] => none
  | c :: rest =>
    if c = '}' ∧ "\x60\x60\x60".toList <+: dropSpaces rest then some [c]
    else (untilFence rest).map (c :: ·)

def fencedHere : Option (List Char) :=
  if "\x60\x60\x60".toList <+: text then
    let inside := text.drop 3
    let inside := if "json".toList <+: inside then inside.drop 4 else inside
    match dropSpaces inside with
    | '\x7b' :: rest => (untilFence rest).map ('\x7b' :: ·)
    | _ => none
  else none

/-- The first object in a fence: three back quotes, perhaps a language, braces, and
three back quotes. -/
def fenced : List Char → Option (List Char)
  | [] => none
  | c :: rest =>
    match fencedHere (c :: rest) with
    | some found => some found
    | none => fenced rest

/-- From the first opening brace to the last closing one. -/
def braced : Option (List Char) :=
  let fromBrace := text.dropWhile (· != '\x7b')
  let body := (fromBrace.reverse.dropWhile (· != '\x7d')).reverse
  if body.isEmpty then none else some body

def parseResponse (loads : Loads) (text : String) : Option Loaded :=
  let stripped := (pyStrip text).toList
  match loads stripped, fenced stripped with
  | some value, _ => some value
  | none, some inside => loads inside
  | none, none => (braced stripped).bind loads

/-- An entry of the allowlist. -/
structure ActionSpec where
  system : String
  action : String
  required : List String
  optional : List String
  numericBounds : List (String × Int × Int)
deriving DecidableEq

def actionAllowlist : List ActionSpec :=
  [{ system := "kubernetes_service", action := "scale_deployment",
     required := ["deployment_name", "namespace", "replicas"],
     optional := ["cluster", "kube_context"], numericBounds := [("replicas", 0, 50)] },
   { system := "kubernetes_service", action := "restart_deployment",
     required := ["deployment_name", "namespace"],
     optional := ["cluster", "kube_context"], numericBounds := [] },
   { system := "kubernetes_service", action := "rollback_deployment",
     required := ["deployment_name", "namespace"],
     optional := ["cluster", "kube_context", "revision"], numericBounds := [] },
   { system := "incident_service", action := "open_incident",
     required := ["service", "severity"],
     optional := ["endpoint", "environment", "reason"], numericBounds := [] }]

/-- `RuleMatch`, as a proposal makes it; which signal it matched is for readers. -/
structure RuleMatch where
  decisionType : Loaded
  system : String
  action : String
  parameters : LoadedDict
  confidence : Binary64
  riskLevel : String
  rollbackPlan : Loaded

structure ValidationOutcome where
  found : Option RuleMatch
  riskFlags : List String

def refused (riskFlag : String) : ValidationOutcome := { found := none, riskFlags := [riskFlag] }

def clamped (low high : Int) (value : Loaded) : Loaded :=
  match value.number? with
  | some x =>
    if x.lt (.finite low) then .int low
    else if Binary64.lt (.finite high) x then .int high
    else value
  | none => value

def outOfBounds (low high : Int) (value : Loaded) : Bool :=
  value.number?.any fun x => x.lt (.finite low) || Binary64.lt (.finite high) x

/-- The loop over `spec["numeric_bounds"]`. -/
def clampAll (bounds : List (String × Int × Int)) (parameters : LoadedDict) : LoadedDict :=
  parameters.map fun parameter =>
    match bounds.lookup parameter.1 with
    | some (low, high) => (parameter.1, clamped low high parameter.2)
    | none => parameter

variable (reading : TextReading)

/-- `float(parsed.get("confidence", 0.55))`. -/
def proposedConfidence (parsed : LoadedDict) : Except PyError Binary64 :=
  match (parsed.lookup "confidence").getD (.float 0.55) with
  | .float x => .ok x
  | .int n => (Number.int n).toDouble
  | .bool b => .ok (.finite (if b then 1 else 0))
  | .str text =>
    match reading.float text with
    | some x => .ok x
    | none => valueError ("could not convert string to float: " ++ pyRepr text)
  | value =>
    typeError ("float() argument must be a string or a real number, not '" ++ value.typeName ++
      "'")

/-- `parsed.get("risk_level", "medium")`, where that is one of the three levels. -/
def proposedRisk (parsed : LoadedDict) : Except PyError String :=
  match (parsed.lookup "risk_level").getD (.str "medium") with
  | .str level => .ok (if ["low", "medium", "high"].contains level then level else "medium")
  | .arr _ => typeError "unhashable type: 'list'"
  | .obj _ => typeError "unhashable type: 'dict'"
  | _ => .ok "medium"

/-- `parsed.get(key) or other`. -/
def loadedOr (parsed : LoadedDict) (key : String) (other : Loaded) : Loaded :=
  match parsed.lookup key with
  | some value => if value.truthy then value else other
  | none => other

def ActionSpec.known (spec : ActionSpec) (parameters : LoadedDict) : LoadedDict :=
  parameters.filter fun parameter => (spec.required ++ spec.optional).contains parameter.1

def matchOf (spec : ActionSpec) (parsed parameters : LoadedDict) :
    Except PyError ValidationOutcome := do
  let cleaned := spec.known parameters
  let confidence ← proposedConfidence reading parsed
  let riskLevel ← proposedRisk parsed
  return {
    found := some {
      decisionType := loadedOr parsed "decision_type" (.str spec.action)
      system := spec.system
      action := spec.action
      parameters := clampAll spec.numericBounds cleaned
      confidence := Binary64.greatest 0.0 (confidence.least 0.85)
      riskLevel
      rollbackPlan := loadedOr parsed "rollback_plan"
        (.str ("undo the last " ++ spec.action ++ " action")) }
    riskFlags := (cleaned.filter fun parameter =>
      (spec.numericBounds.lookup parameter.1).any fun bounds =>
        outOfBounds bounds.1 bounds.2 parameter.2).map fun _ => "llm_bound_clamped" }

def validateAndClamp (parsed : LoadedDict) :
    Except PyError ValidationOutcome :=
  match parsed.lookup "system", parsed.lookup "action" with
  | some (.str system), some (.str action) =>
    match actionAllowlist.find? fun spec => spec.system == system && spec.action == action with
    | none => .ok (refused "llm_action_not_allowed")
    | some spec =>
      match parsed.lookup "parameters" with
      | some (.obj parameters) =>
        if spec.required.all fun key => (parameters.lookup key).isSome then
          matchOf reading spec parsed parameters
        else .ok (refused "llm_missing_parameter")
      | _ => .ok (refused "llm_missing_parameter")
  | _, _ => .ok (refused "llm_action_not_allowed")

/-- What `propose` makes of the model's answer. -/
def proposal (loads : Loads) (reading : TextReading) (text : String) :
    Except PyError ValidationOutcome :=
  match parseResponse loads text with
  | none | some .null => .ok (refused "llm_invalid_json")
  | some (.obj parsed) => validateAndClamp reading parsed
  | some value =>
    .error ⟨.exception, "'" ++ value.typeName ++ "' object has no attribute 'get'"⟩

/-- The tier that `_decision_from_rule_match` gives. -/
def RuleMatch.autonomyTier (ruleMatch : RuleMatch) : String :=
  match ruleMatch.riskLevel with
  | "low" => "autonomous"
  | "medium" => "approval_required"
  | "high" => "escalated"
  | _ => "approval_required"

def denotes (decisionType : Loaded) (action : String) : Bool :=
  match decisionType with
  | .str name => name == action || (name == "escalate" && action == "open_incident")
  | _ => false

def withinBounds (low high : Int) : Loaded → Bool
  | .int n => decide (low ≤ n) && decide (n ≤ high)
  | .float x => Binary64.le (.finite low) x && x.le (.finite high)
  | _ => false

/-- An accepted proposal stays inside the list, its type names its action, and a change is not
made on the model's word alone. -/
structure Contained (ruleMatch : RuleMatch) : Prop where
  listed : ∃ spec ∈ actionAllowlist, ruleMatch.system = spec.system ∧
    ruleMatch.action = spec.action ∧
    (∀ parameter ∈ ruleMatch.parameters, parameter.1 ∈ spec.required ++ spec.optional) ∧
    ∀ bound ∈ spec.numericBounds, ∀ value, (bound.1, value) ∈ ruleMatch.parameters →
      withinBounds bound.2.1 bound.2.2 value = true
  named : denotes ruleMatch.decisionType ruleMatch.action = true
  asked : ruleMatch.autonomyTier = "autonomous" → ruleMatch.action = "open_incident"

/-- A number, and not `NaN`. -/
def Loaded.isNumber : Loaded → Bool
  | .int _ => true
  | .float x => x != .nan
  | _ => false

def parametersOf (parsed : LoadedDict) : LoadedDict :=
  match parsed.lookup "parameters" with
  | some (.obj parameters) => parameters
  | _ => []

def actionOf (parsed : LoadedDict) : String :=
  match parsed.lookup "action" with
  | some (.str action) => action
  | _ => ""

/-- The answer names its action as its type or names none, gives a number of replicas
where it scales, and does not call a change harmless. -/
structure Honest (parsed : LoadedDict) : Prop where
  named : ∀ value, parsed.lookup "decision_type" = some value → value.truthy = true →
    denotes value (actionOf parsed) = true
  replicas : actionOf parsed = "scale_deployment" →
    ∀ value, ("replicas", value) ∈ parametersOf parsed → value.isNumber = true
  risk : parsed.lookup "risk_level" = some (.str "low") → actionOf parsed = "open_incident"

theorem withinBounds_clamped (value : Loaded) :
    withinBounds 0 50 (clamped 0 50 value) = value.isNumber := by
  cases value with
  | null | str _ | arr _ | obj _ => rfl
  | bool b => cases b <;> decide +kernel
  | int n =>
    simp only [clamped, Loaded.number?, Binary64.lt, decide_eq_true_eq, Loaded.isNumber]
    split
    · decide
    · split
      · decide
      · next hlow hhigh =>
        have hlow : 0 ≤ n := by exact_mod_cast not_lt.mp hlow
        have hhigh : n ≤ 50 := by exact_mod_cast not_lt.mp hhigh
        simp [withinBounds, hlow, hhigh]
  | float x =>
    cases x with
    | nan => decide
    | infinite neg => cases neg <;> decide
    | finite q =>
      have hfinite : (Binary64.finite q != Binary64.nan) = true := by simp
      simp only [clamped, Loaded.number?, Binary64.lt, decide_eq_true_eq, Loaded.isNumber,
        hfinite]
      split
      · decide
      · split
        · decide
        · next hlow hhigh =>
          have hlow := not_lt.mp hlow
          have hhigh := not_lt.mp hhigh
          simp only [withinBounds, Binary64.le, decide_eq_true hlow, decide_eq_true hhigh]
          rfl

variable {parsed : LoadedDict}

theorem denotes_loadedOr_iff {action : String} :
    denotes (loadedOr parsed "decision_type" (.str action)) action = true ↔
      ∀ value, parsed.lookup "decision_type" = some value → value.truthy = true →
        denotes value action = true := by
  have hself : denotes (.str action) action = true := by simp [denotes]
  unfold loadedOr
  cases hfound : parsed.lookup "decision_type" with
  | none => simp [hself]
  | some value =>
    simp only [Option.some.injEq, forall_eq']
    split
    · next h => simp [h]
    · next h => simp [hself, h]

variable {ruleMatch : RuleMatch} {parameters : LoadedDict}

theorem autonomous_iff {riskLevel : String} (hrisk : proposedRisk parsed = .ok riskLevel)
    (hlevel : ruleMatch.riskLevel = riskLevel) :
    ruleMatch.autonomyTier = "autonomous" ↔ parsed.lookup "risk_level" = some (.str "low") := by
  have htier : ruleMatch.autonomyTier = "autonomous" ↔ riskLevel = "low" := by
    unfold RuleMatch.autonomyTier
    rw [hlevel]
    split <;> simp_all
  rw [htier]
  unfold proposedRisk at hrisk
  cases hfound : parsed.lookup "risk_level" with
  | none =>
    rw [hfound] at hrisk
    cases hrisk
    simp
  | some value =>
    rw [hfound] at hrisk
    cases value with
    | str level =>
      simp only [Option.getD_some, Except.ok.injEq] at hrisk
      subst hrisk
      by_cases hlow : level = "low"
      · subst hlow
        simp
      · split <;> simp_all
    | null | bool _ | int _ | float _ =>
      cases hrisk
      simp
    | arr _ | obj _ => cases hrisk

variable {bounds : List (String × Int × Int)}

theorem mem_clampAll {key : String} {low high : Int}
    (hbound : bounds.lookup key = some (low, high)) {value : Loaded} :
    (key, value) ∈ clampAll bounds parameters ↔
      ∃ given, (key, given) ∈ parameters ∧ value = clamped low high given := by
  unfold clampAll
  rw [List.mem_map]
  constructor
  · rintro ⟨⟨name, given⟩, hmem, heq⟩
    cases hlookup : bounds.lookup name with
    | none =>
      rw [hlookup] at heq
      cases heq
      rw [hbound] at hlookup
      cases hlookup
    | some found =>
      rw [hlookup] at heq
      cases heq
      rw [hbound] at hlookup
      cases hlookup
      exact ⟨given, hmem, rfl⟩
  · rintro ⟨given, hmem, rfl⟩
    exact ⟨(key, given), hmem, by simp [hbound]⟩

theorem keys_clampAll {parameter : String × Loaded} (h : parameter ∈ clampAll bounds parameters) :
    ∃ given ∈ parameters, given.1 = parameter.1 := by
  obtain ⟨given, hmem, rfl⟩ := List.mem_map.mp h
  refine ⟨given, hmem, ?_⟩
  split <;> rfl

theorem bounds_iff {spec : ActionSpec} (hspec : spec ∈ actionAllowlist) :
    (∀ bound ∈ spec.numericBounds, ∀ value,
      (bound.1, value) ∈ clampAll spec.numericBounds (spec.known parameters) →
        withinBounds bound.2.1 bound.2.2 value = true) ↔
      (spec.action = "scale_deployment" →
        ∀ value, ("replicas", value) ∈ parameters → value.isNumber = true) := by
  have hunbounded (hnone : spec.numericBounds = []) (haction : spec.action ≠ "scale_deployment") :
      (∀ bound ∈ spec.numericBounds, ∀ value,
        (bound.1, value) ∈ clampAll spec.numericBounds (spec.known parameters) →
          withinBounds bound.2.1 bound.2.2 value = true) ↔
        (spec.action = "scale_deployment" →
          ∀ value, ("replicas", value) ∈ parameters → value.isNumber = true) := by
    simp [hnone, haction]
  simp only [actionAllowlist, List.mem_cons, List.not_mem_nil, or_false] at hspec
  rcases hspec with rfl | rfl | rfl | rfl
  · simp only [List.mem_singleton, forall_eq, forall_true_left]
    constructor
    · intro h value hmem
      rw [← withinBounds_clamped]
      refine h _ ((mem_clampAll rfl).mpr ⟨value, ?_, rfl⟩)
      exact List.mem_filter.mpr ⟨hmem, by simp⟩
    · intro h value hmem
      obtain ⟨given, hgiven, rfl⟩ := (mem_clampAll rfl).mp hmem
      rw [withinBounds_clamped]
      exact h given (List.mem_filter.mp hgiven).1
  · exact hunbounded rfl (by decide)
  · exact hunbounded rfl (by decide)
  · exact hunbounded rfl (by decide)

theorem spec_unique : ∀ spec ∈ actionAllowlist, ∀ other ∈ actionAllowlist,
    spec.action = other.action → spec = other := by
  decide

theorem accepted_spec {reading : TextReading} {outcome : ValidationOutcome}
    (h : validateAndClamp reading parsed = .ok outcome) (hfound : outcome.found = some ruleMatch) :
    ∃ spec ∈ actionAllowlist, actionOf parsed = spec.action ∧
      ruleMatch.system = spec.system ∧ ruleMatch.action = spec.action ∧
      ruleMatch.parameters = clampAll spec.numericBounds (spec.known (parametersOf parsed)) ∧
      ruleMatch.decisionType = loadedOr parsed "decision_type" (.str spec.action) ∧
      proposedRisk parsed = .ok ruleMatch.riskLevel := by
  unfold validateAndClamp at h
  split at h
  · next system action hsystem haction =>
    split at h
    · cases h
      cases hfound
    · next spec hlisted =>
      split at h
      · next parameters hparameters =>
        split at h
        · obtain ⟨confidence, -, h⟩ := bind_ok h
          obtain ⟨riskLevel, hrisk, h⟩ := bind_ok h
          cases h
          cases hfound
          have hsame := (List.find?_eq_some_iff_append.mp hlisted).1
          simp only [Bool.and_eq_true, beq_iff_eq] at hsame
          exact ⟨spec, List.mem_of_find?_eq_some hlisted,
            by simp [actionOf, haction, hsame.2], rfl, rfl,
            by simp [parametersOf, hparameters], rfl, hrisk⟩
        · cases h
          cases hfound
      · cases h
        cases hfound
  · cases h
    cases hfound

/-- **Accepted proposals** are contained exactly if the answer names its action, gives a number of
replicas and calls no change harmless. -/
theorem accepted_contained_iff {loads : Loads} {reading : TextReading} {text : String}
    {parsed : LoadedDict} {outcome : ValidationOutcome} {ruleMatch : RuleMatch}
    (hparsed : parseResponse loads text = some (.obj parsed))
    (hproposal : proposal loads reading text = .ok outcome)
    (hfound : outcome.found = some ruleMatch) : Contained ruleMatch ↔ Honest parsed := by
  rw [proposal, hparsed] at hproposal
  obtain ⟨spec, hspec, hactionOf, hsystem, haction, hparameters, htype, hrisk⟩ :=
    accepted_spec hproposal hfound
  constructor
  · rintro ⟨⟨other, hother, -, hsame, -, hbounds⟩, hnamed, hasked⟩
    obtain rfl := spec_unique _ hspec _ hother (haction.symm.trans hsame)
    refine ⟨?_, ?_, fun hlow => ?_⟩
    · rw [hactionOf]
      rw [htype, haction] at hnamed
      exact denotes_loadedOr_iff.mp hnamed
    · rw [hactionOf]
      rw [hparameters] at hbounds
      exact (bounds_iff hspec).mp hbounds
    · rw [hactionOf, ← haction]
      exact hasked ((autonomous_iff hrisk rfl).mpr hlow)
  · rintro ⟨hnamed, hreplicas, hlow⟩
    rw [hactionOf] at hnamed hreplicas hlow
    refine ⟨⟨spec, hspec, hsystem, haction, ?_, ?_⟩, ?_, fun h => ?_⟩
    · intro parameter hmem
      rw [hparameters] at hmem
      obtain ⟨given, hgiven, hkey⟩ := keys_clampAll hmem
      rw [← hkey]
      simpa [ActionSpec.known] using (List.mem_filter.mp hgiven).2
    · rw [hparameters]
      exact (bounds_iff hspec).mpr hreplicas
    · rw [htype, haction]
      exact denotes_loadedOr_iff.mpr hnamed
    · rw [haction]
      exact hlow ((autonomous_iff hrisk rfl).mp h)

def scalingAnswer (decisionType riskLevel : String) (replicas : Loaded) : LoadedDict :=
  [("decision_type", .str decisionType), ("system", .str "kubernetes_service"),
   ("action", .str "scale_deployment"),
   ("parameters", .obj
      [("deployment_name", .str "api"), ("namespace", .str "prod"), ("replicas", replicas)]),
   ("risk_level", .str riskLevel)]

def scalingText (decisionType riskLevel replicas : String) : String :=
  "\x7b\"decision_type\": \"" ++ decisionType ++ "\", \"system\": \"kubernetes_service\", " ++
    "\"action\": \"scale_deployment\", \"parameters\": \x7b\"deployment_name\": \"api\", " ++
    "\"namespace\": \"prod\", \"replicas\": " ++ replicas ++ "\x7d, \"risk_level\": \"" ++
    riskLevel ++ "\"\x7d"

def loadsOnly (text : String) (value : LoadedDict) : Loads :=
  fun found => if found = text.toList then some (.obj value) else none

def acceptedWith (text : String) (value : LoadedDict) (described : RuleMatch → Bool) : Bool :=
  decide ((pyStrip text).toList = text.toList) &&
    match proposal (loadsOnly text value) ⟨fun _ => none, fun _ => none⟩ text with
    | .ok ⟨some ruleMatch, _⟩ => described ruleMatch
    | _ => false

theorem acceptedWith_spec {text : String} {value : LoadedDict} {described : RuleMatch → Bool}
    (h : acceptedWith text value described = true) :
    ∃ outcome ruleMatch, parseResponse (loadsOnly text value) text = some (.obj value) ∧
      proposal (loadsOnly text value) ⟨fun _ => none, fun _ => none⟩ text = .ok outcome ∧
      outcome.found = some ruleMatch ∧ described ruleMatch = true := by
  simp only [acceptedWith, Bool.and_eq_true, decide_eq_true_eq] at h
  obtain ⟨hstrip, h⟩ := h
  split at h
  · next ruleMatch flags hproposal =>
    refine ⟨_, ruleMatch, ?_, hproposal, rfl, h⟩
    simp [parseResponse, hstrip, loadsOnly]
  · cases h

theorem accepted_contained_five :
    ∃ outcome ruleMatch,
      proposal (loadsOnly (scalingText "scale_deployment" "medium" "5")
        (scalingAnswer "scale_deployment" "medium" (.int 5))) ⟨fun _ => none, fun _ => none⟩
        (scalingText "scale_deployment" "medium" "5") = .ok outcome ∧
      outcome.found = some ruleMatch ∧ Contained ruleMatch := by
  obtain ⟨outcome, ruleMatch, hparsed, hproposal, hfound, -⟩ :=
    acceptedWith_spec (show acceptedWith (scalingText "scale_deployment" "medium" "5")
      (scalingAnswer "scale_deployment" "medium" (.int 5)) (fun _ => true) = true by
        decide +kernel)
  refine ⟨outcome, ruleMatch, hproposal, hfound,
    (accepted_contained_iff hparsed hproposal hfound).mpr ⟨?_, ?_, ?_⟩⟩
  · intro value hvalue _
    cases hvalue
    rfl
  · intro _ value hmem
    have hparameters : parametersOf (scalingAnswer "scale_deployment" "medium" (.int 5)) =
        [("deployment_name", .str "api"), ("namespace", .str "prod"), ("replicas", .int 5)] := rfl
    rw [hparameters] at hmem
    simp only [List.mem_cons, Prod.mk.injEq, List.not_mem_nil, or_false] at hmem
    rcases hmem with ⟨h, -⟩ | ⟨h, -⟩ | ⟨-, rfl⟩
    · exact absurd h (by decide)
    · exact absurd h (by decide)
    · rfl
  · intro hlow
    have hlevel : Loaded.str "medium" = .str "low" := Option.some.inj hlow
    exact absurd (Loaded.str.inj hlevel) (by decide)

/-- An answer that calls a scaling no action and harmless, and spells the number of
replicas out, is accepted as it is. -/
theorem mislabelled_scaling_accepted :
    ∃ outcome ruleMatch,
      proposal (loadsOnly (scalingText "no_action" "low" "\"500\"")
        (scalingAnswer "no_action" "low" (.str "500"))) ⟨fun _ => none, fun _ => none⟩
        (scalingText "no_action" "low" "\"500\"") = .ok outcome ∧
      outcome.found = some ruleMatch ∧ denotes ruleMatch.decisionType ruleMatch.action = false ∧
      ruleMatch.autonomyTier = "autonomous" ∧ ¬ Contained ruleMatch := by
  obtain ⟨outcome, ruleMatch, -, hproposal, hfound, hdescribed⟩ :=
    acceptedWith_spec (show acceptedWith (scalingText "no_action" "low" "\"500\"")
      (scalingAnswer "no_action" "low" (.str "500"))
      (fun found => !denotes found.decisionType found.action &&
        found.autonomyTier == "autonomous") = true by decide +kernel)
  simp only [Bool.and_eq_true, Bool.not_eq_true', beq_iff_eq] at hdescribed
  refine ⟨outcome, ruleMatch, hproposal, hfound, hdescribed.1, hdescribed.2, fun h => ?_⟩
  rw [h.named] at hdescribed
  cases hdescribed.1

end OrbitalMesh.Decision
