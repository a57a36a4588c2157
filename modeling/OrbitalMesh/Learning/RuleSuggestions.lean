import OrbitalMesh.Base.Counting
import OrbitalMesh.Decision.Advice
import OrbitalMesh.Decision.MetricRules

/-!
# Rules learned from overrides

An operator who overrides a decision leaves a record.  Records are grouped by the
fingerprint of the signal they answered: the last word of the metric's name, the service,
the namespace and the direction.  From a group that is large enough and agrees well enough
a rule is made, which a person may put among the rules of the matcher
(`shared/mesh_runtime/rule_suggestions.py`).

A record keeps the fingerprint and the name of the metric, not the signal.
-/

namespace OrbitalMesh.RuleSuggestions

open OrbitalMesh.Decision OrbitalMesh.Decision.MetricRules Counting

/-- `re.sub(r"(?<=[a-z])(?=[A-Z])", "_", name)`. -/
def splitCamel : List Char → List Char
  | a :: b :: rest =>
    if a.isLower && b.isUpper then a :: '_' :: splitCamel (b :: rest)
    else a :: splitCamel (b :: rest)
  | rest => rest

def unitTokens : List String :=
  ["ms", "seconds", "s", "percent", "pct", "bytes", "count", "total", "per"]

/-- `[^a-z0-9]`. -/
def isSeparator (c : Char) : Bool := !(c.isLower || c.isDigit)

def segments (name : String) : List String :=
  ((((splitCamel name.toList).flatMap lowered).splitOnP isSeparator).filter
    (fun segment => !segment.isEmpty)).map String.ofList

/-- `_normalize_metric_name`: the last segment that is neither a number nor a unit. -/
def normalizeMetricName (name : String) : String :=
  let filtered := (segments name).filter fun segment =>
    !segment.toList.all Char.isDigit && !(unitTokens.contains segment)
  filtered.getLast?.getD "unknown"

example : ["kafka.consumer.lag", "consumer_lag_total", "ConsumerLag"].map normalizeMetricName =
    ["lag", "lag", "lag"] := by decide

/-- `str(d.get(key) or default)`. -/
def textOr (d : Dict) (key default : String) : String :=
  match d.get? key with
  | some value => if truthy value then pyStr value else default
  | none => default

variable (signal : MetricSignal)

def namespaceOf : Except PyError String :=
  if truthyAt signal.members "namespace" then .ok (textOr signal.members "namespace" "default")
  else
    match signal.members.get? "resource_attributes" with
    | some .null => .error ⟨.exception, "'NoneType' object has no attribute 'get'"⟩
    | _ => .ok (textOr signal.resourceAttributes "k8s.namespace.name" "default")

/-- Whether a signal counts as one that goes up: a value that is missing does not
contradict it, two that are equal do. -/
def goesUp : Bool :=
  match signal.observed, signal.baseline with
  | some observed, some baseline => baseline.lt observed
  | _, _ => true

/-- `metric_regression.get("metric_name") or "unknown"`. -/
def recordedName : String :=
  if signal.metricName = "" then "unknown" else signal.metricName

def fingerprintSignal : Except PyError String := do
  let space ← namespaceOf signal
  return normalizeMetricName (recordedName signal) ++ ":" ++
    textOr signal.members "service" "unknown" ++ ":" ++ space ++
    (if goesUp signal then ":up" else ":down")

variable (fingerprint : String)

/-- `fingerprint.endswith(":up")`. -/
def endsUp : Bool := decide (":up".toList <:+ fingerprint.toList)

structure OverrideRecord where
  fingerprint : String
  recordedAt : String
  runId : String
  originalDecisionType : String
  overrideDecisionType : Option String
  overrideParameters : Dict
  originalParameters : Dict
  service : String
  metricName : String
  outcome : Option String := none
deriving DecidableEq

/-- What an operator's override hands to `record_override`. -/
structure Override where
  signal : MetricSignal
  runId : String
  originalDecisionType : String
  overrideDecisionType : Option String
  overrideParameters : Dict
  originalParameters : Dict

/-- The record that `record_override` writes. -/
def Override.record (override : Override) (now : String) : Except PyError OverrideRecord := do
  let fingerprint ← fingerprintSignal override.signal
  return { fingerprint := fingerprint, recordedAt := now, runId := override.runId,
           originalDecisionType := override.originalDecisionType,
           overrideDecisionType := override.overrideDecisionType,
           overrideParameters := override.overrideParameters,
           originalParameters := override.originalParameters,
           service := textOr override.signal.members "service" "unknown",
           metricName := recordedName override.signal }

/-- `datetime.min` in UTC. -/
def minInstant : Instant := -62135596800000000

/-- `now - timedelta(days=days)`. -/
def daysBefore (now : Instant) (days : Int) : Except PyError Instant :=
  if days < -2147483648 ∨ 2147483647 < days then
    .error ⟨.overflowError, "Python int too large to convert to C int"⟩
  else if 999999999 < days.natAbs then
    .error ⟨.overflowError, "days=" ++ toString days ++ "; must have magnitude <= 999999999"⟩
  else
    let instant := now - days * 86400000000
    if minInstant ≤ instant ∧ instant ≤ maxInstant then .ok instant
    else .error ⟨.overflowError, "date value out of range"⟩

/-- `datetime.fromisoformat`, where it reads the text. -/
abbrev ParseTime := String → Option Reading

variable (parse : ParseTime)

/-- `_parse_timestamp`, and the comparison with the cutoff. -/
def recentEnough (cutoff : Instant) (record : OverrideRecord) :
    Except PyError Bool :=
  if record.recordedAt = "" then .ok false
  else
    match parse record.recordedAt with
    | none => .ok false
    | some none => typeError "can't compare offset-naive and offset-aware datetimes"
    | some (some recorded) => .ok (decide (cutoff ≤ recorded))

/-- The loop of `list_overrides`, with a cutoff. -/
def keepRecent (parse : ParseTime) (cutoff : Instant) :
    List OverrideRecord → Except PyError (List OverrideRecord)
  | [] => .ok []
  | record :: rest => do
    let recent ← recentEnough parse cutoff record
    let records ← keepRecent parse cutoff rest
    return if recent then record :: records else records

def listOverrides (now : Instant) (log : List OverrideRecord)
    (maxAgeDays : Option Int) : Except PyError (List OverrideRecord) :=
  match maxAgeDays with
  | none => .ok log
  | some days => do
    let cutoff ← daysBefore now days
    keepRecent parse cutoff log

/-- `a + b`. -/
def plus : Number → Number → Except PyError Number
  | .int n, .int m => .ok (.int (n + m))
  | a, b => do return .float ((← a.toDouble).add (← b.toDouble))

/-- `sorted(numbers)`. -/
def sortedNumbers (numbers : List Number) : List Number :=
  numbers.insertionSort fun a b => a.exact.le b.exact = true

/-- `float(statistics.median(numbers))`, where there is a number. -/
def medianOf (numbers : List Number) : Except PyError Binary64 :=
  let sorted := sortedNumbers numbers
  let middle := numbers.length / 2
  let upper := sorted.getD middle (.int 0)
  if numbers.length % 2 = 1 then upper.toDouble
  else do
    let sum ← plus (sorted.getD (middle - 1) (.int 0)) upper
    sum.div (.int 2)

/-- A double as JSON; the decimals of a finite one are exact.  No JSON number stands for
the median of two opposite infinities. -/
def jsonOf : Binary64 → Json
  | .finite x =>
    let places := Nat.log2 x.den
    .float (decide (x < 0)) (x.num.natAbs * 5 ^ places) (-(places : Int))
  | .infinite negative => .float negative 1 400
  | .nan => .null

/-- A number that is not a `bool`. -/
def plainNumber? : Json → Option Number
  | .bool _ => none
  | value => asNumber? value

/-- `isinstance(value, int)`, of a number that is not a `bool`. -/
def isWhole : Number → Bool
  | .int _ => true
  | .float _ => false

/-- `int(x)` of a double that is finite. -/
def truncated : Binary64 → Json
  | .finite x => .int (if x < 0 then x.ceil else x.floor)
  | x => jsonOf x

/-- The value of one merged parameter: the median of numbers, else the first value of
those that are most frequent. -/
def mergedValue (values : List Json) : Except PyError Json :=
  let numbers := values.filterMap plainNumber?
  if numbers.length = values.length then do
    let median ← medianOf numbers
    return if numbers.all isWhole then truncated median else jsonOf median
  else
    .ok (((mostCommon (counter (values.map Json.canon))).map (·.1)).getD .null)

variable (records : List OverrideRecord)

/-- `_merge_parameters_by_median`; the order of the keys is not specified, and here they
stand in the order in which they come up. -/
def mergeParametersByMedian : Except PyError Dict :=
  (records.flatMap fun record => record.overrideParameters.map (·.1)).eraseDups.mapM fun key => do
    let value ← mergedValue (records.filterMap fun record => record.overrideParameters.get? key)
    return (key, value)

variable (action : String)

def inferSystemForAction : String :=
  (List.lookup action
    [("scale_deployment", "kubernetes_service"), ("patch_resources", "kubernetes_service"),
     ("rollback_deployment", "kubernetes_service"), ("restart_deployment", "kubernetes_service"),
     ("disable_flag", "feature_flag_service"), ("reduce_rollout", "feature_flag_service"),
     ("escalate", "incident_service"), ("no_action", "audit_log_sink")]).getD "audit_log_sink"

def boundsForAction : Dict :=
  if action = "scale_deployment" then
    [("replicas_delta_max", .int 2), ("cooldown_seconds", .int 600)]
  else if action = "patch_resources" then [("cooldown_seconds", .int 900)]
  else [("cooldown_seconds", .int 300)]

/-- `count / total` of two lengths. -/
def ratio (count total : Nat) : Binary64 := .nearest (count / total)

def confidenceFromSuccessRate (successRate : Option Binary64) (sampleSize : Nat) : Binary64 :=
  match successRate with
  | none => 0.55
  | some rate =>
    let nFactor := Binary64.least 0.9
      (Binary64.add 0.5 (Binary64.mul (.nearest ((sampleSize : Int) - 5 : Int)) 0.01))
    (Binary64.greatest 0.5 (Binary64.least 0.85 (nFactor.mul rate))).roundTo 2

/-- The characters that `re.escape` marks. -/
def isSpecial (c : Char) : Bool :=
  "()[]\x7b\x7d?*+-|^$\\.&~# \t\n\r\x0b\x0c".toList.contains c

/-- `re.escape`. -/
def reEscape (text : String) : String :=
  String.ofList (text.toList.flatMap fun c => if isSpecial c then ['\\', c] else [c])

theorem clampable_boundsForAction : clampable (boundsForAction action) = true := by
  unfold boundsForAction
  split
  · rfl
  · split <;> rfl

theorem confident_confidenceFromSuccessRate (successRate : Option Binary64) (sampleSize : Nat) :
    ((.finite 0 : Binary64).le (confidenceFromSuccessRate successRate sampleSize) &&
      (confidenceFromSuccessRate successRate sampleSize).le (.finite 1)) = true := by
  cases successRate with
  | none =>
    show ((Binary64.finite 0).le 0.55 && Binary64.le 0.55 (.finite 1)) = true
    decide +kernel
  | some rate =>
    have hbounds : Binary64.le 0.5 0.85 = true := by decide +kernel
    obtain ⟨hlow, hhigh⟩ := Binary64.between_of_clamped hbounds
      ((Binary64.least 0.9 (Binary64.add 0.5
        (Binary64.mul (.nearest ((sampleSize : Int) - 5 : Int)) 0.01))).mul rate)
    have hzero : (Binary64.finite 0).le (Binary64.roundTo 2 0.5) = true := by decide +kernel
    have hone : (Binary64.roundTo 2 0.85).le (.finite 1) = true := by decide +kernel
    rw [Bool.and_eq_true]
    exact ⟨Binary64.le_trans hzero (Binary64.roundTo_mono 2 hlow),
      Binary64.le_trans (Binary64.roundTo_mono 2 hhigh) hone⟩

/-- `RuleSuggestion`, with the members of its `supporting_evidence`. -/
structure RuleSuggestion where
  fingerprint : String
  rule : MetricActionRule
  doc : String
  observationCount : Nat
  successRate : Option Binary64
  actionVotes : List (String × Nat)
  winningActionCount : Nat
  agreementThreshold : Binary64
  completedOutcomes : Nat
  successfulOutcomes : Nat
  sampleRunIds : List String

def OverrideRecord.vote (record : OverrideRecord) : Option String :=
  record.overrideDecisionType.filter fun action => action != ""

def choosing (records : List OverrideRecord) : List OverrideRecord :=
  records.filter fun record => record.overrideDecisionType == some action

def patternName (sample : OverrideRecord) : String :=
  if sample.metricName != "unknown" then sample.metricName
  else normalizeMetricName sample.metricName

/-- The rule that `_synthesize_group` writes. -/
def learnedRule (fingerprint action : String) (sample : OverrideRecord) (parameters : Dict)
    (successRate : Option Binary64) (sampleSize : Nat) : MetricActionRule where
  name := "learned: " ++ action ++ " on " ++ fingerprint
  matchSpec :=
    { metricNamePattern := "(" ++ reEscape (patternName sample) ++ ")"
      direction := if endsUp fingerprint then "increasing" else "decreasing"
      deltaPctMin := some ⟨.finite 20, by decide⟩ }
  propose :=
    { decisionType := action, system := inferSystemForAction action, action := action,
      parameters := parameters }
  bounds := boundsForAction action
  confidence := confidenceFromSuccessRate successRate sampleSize
  riskLevel := "medium"
  rollbackPlan := "undo the last " ++ action ++ " action and escalate for human review"
  named := by simp [String.append_eq_empty_iff]
  confident := confident_confidenceFromSuccessRate successRate sampleSize
  levelled := levelled_medium
  clamped := clampable_boundsForAction action

/-- `_synthesize_group`; a group has a first record. -/
def synthesizeGroup (records : List OverrideRecord)
    (agreementThreshold : Binary64) : Except PyError (Option RuleSuggestion) :=
  let actionVotes := counter (records.filterMap OverrideRecord.vote)
  match records, mostCommon actionVotes with
  | [], _ | _, none => .ok none
  | sample :: _, some (winningAction, winningCount) =>
    if (ratio winningCount records.length).lt agreementThreshold then .ok none
    else do
      let winning := choosing winningAction records
      let completed := winning.filter fun record => record.outcome.isSome
      let successes := completed.filter fun record =>
        record.outcome.any ["successful", "rolled_back"].contains
      let successRate :=
        if completed.isEmpty then none else some (ratio successes.length completed.length)
      let parameters ← mergeParametersByMedian winning
      return some
        { fingerprint := fingerprint
          rule := learnedRule fingerprint winningAction sample parameters successRate
            winning.length
          doc := "Synthesized from " ++ toString winning.length ++
            " operator overrides on signals fingerprinted as " ++ pyRepr fingerprint ++
            ". Review parameter defaults before approving."
          observationCount := records.length
          successRate := successRate
          actionVotes := actionVotes
          winningActionCount := winningCount
          agreementThreshold := agreementThreshold
          completedOutcomes := completed.length
          successfulOutcomes := successes.length
          sampleRunIds := (records.take 5).map OverrideRecord.runId }

def ofFingerprint (records : List OverrideRecord) : List OverrideRecord :=
  records.filter fun record => record.fingerprint == fingerprint

def fingerprints : List String :=
  (records.map OverrideRecord.fingerprint).eraseDups

def suggestFor (minObservations : Int)
    (agreementThreshold : Binary64) (fingerprint : String) :
    Except PyError (Option RuleSuggestion) :=
  let group := ofFingerprint fingerprint records
  if (group.length : Int) < minObservations then .ok none
  else synthesizeGroup fingerprint group agreementThreshold

/-- `(-observation_count, fingerprint)`, compared. -/
def shownBefore (a b : RuleSuggestion) : Prop :=
  b.observationCount < a.observationCount ∨
    a.observationCount = b.observationCount ∧ Json.keyLe a.fingerprint b.fingerprint = true

instance : DecidableRel shownBefore := fun a b => by unfold shownBefore; infer_instance

def synthesizeSuggestions (now : Instant) (log : List OverrideRecord)
    (minObservations : Int) (agreementThreshold : Binary64) (maxAgeDays : Option Int) :
    Except PyError (List RuleSuggestion) := do
  let records ← listOverrides parse now log maxAgeDays
  let answers ← (fingerprints records).mapM (suggestFor records minObservations agreementThreshold)
  return (answers.filterMap id).insertionSort shownBefore

end OrbitalMesh.RuleSuggestions
