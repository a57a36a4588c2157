import OrbitalMesh.Base.Rounding
import OrbitalMesh.Decision.Trigger

/-!
# The metric-action rules

`MetricActionMatcher` holds a list of rules and answers a metric signal with the first
rule that matches it.  The patterns of all rules are compiled when the matcher is
built, into one table whose keys are the names of the rules; nothing asks that names
differ.  The conditions of a rule are checked one after the other.  What has passed is
noted as evidence.
-/

namespace OrbitalMesh.Decision.MetricRules

/-- A bound that a rule states; JSON has no number that is none. -/
abbrev Bound := {bound : Binary64 // bound ≠ .nan}

/-- The `match` member of a rule.  An empty pattern or direction counts as a missing
one. -/
structure MatchSpec where
  metricNamePattern : String := ""
  direction : String := ""
  deltaPctMin : Option Bound := none
  deltaPctMax : Option Bound := none
  resourceAttributes : Dict := []
  attributes : Dict := []

/-- The `propose` member of a rule. -/
structure Propose where
  decisionType : String
  system : String
  action : String
  parameters : Dict

/-- `bounds.replicas_delta_max` is left out or is a number. -/
def clampable (bounds : Dict) : Bool :=
  match bounds.get? "replicas_delta_max" with
  | none | some .null => true
  | some value => (asNumber? value).isSome

/-- `MetricActionRule`, past its `__post_init__`. -/
structure MetricActionRule where
  name : String
  matchSpec : MatchSpec
  propose : Propose
  bounds : Dict := []
  confidence : Binary64 := 0.75
  riskLevel : String := "medium"
  rollbackPlan : String := ""
  named : name ≠ ""
  confident : ((.finite 0 : Binary64).le confidence && confidence.le (.finite 1)) = true
  levelled : riskLevel ∈ ["low", "medium", "high"]
  clamped : clampable bounds = true

theorem confident_default :
    ((.finite 0 : Binary64).le 0.75 && (0.75 : Binary64).le (.finite 1)) = true := by
  decide +kernel

theorem levelled_medium : "medium" ∈ ["low", "medium", "high"] := by decide

/-- The dictionary under a key; a missing one is empty. -/
def dictAt (d : Dict) (key : String) : Dict :=
  match d.get? key with
  | some (.obj members) => members
  | _ => []

/-- `float(value)` of a number. -/
def double? (value : Json) : Option Binary64 :=
  (asNumber? value).bind fun number => number.toDouble.toOption

def numberAt (d : Dict) (key : String) : Option Binary64 := (d.get? key).bind double?

/-- Under the key is nothing, `null`, or a value of the kind. -/
def optionalAt (kind : Json → Bool) (d : Dict) (key : String) : Bool :=
  match d.get? key with
  | none | some .null => true
  | some value => kind value

/-- What the payload of an `otel_metric_regression` signal says of the types of its
members.  Any of them may be missing. -/
def wellTyped (members : Dict) : Bool :=
  let regression := dictAt members "metric_regression"
  optionalAt (fun value => value.asObj?.isSome) members "metric_regression" &&
    optionalAt (fun value => value.asObj?.isSome) members "resource_attributes" &&
    optionalAt (fun value => value.asObj?.isSome) regression "attributes" &&
    ["observed_value", "baseline_value", "delta_pct"].all
      (optionalAt (fun value => (double? value).isSome) regression) &&
    ((regression.get? "metric_name").all fun value => matchesType value .string)

structure MetricSignal where
  members : Dict
  typed : wellTyped members = true

namespace MetricSignal

variable (signal : MetricSignal)

def metricRegression : Dict := dictAt signal.members "metric_regression"

def metricName : String := ((signal.metricRegression.get? "metric_name").map Json.asStr).getD ""

def observed : Option Binary64 := numberAt signal.metricRegression "observed_value"

def baseline : Option Binary64 := numberAt signal.metricRegression "baseline_value"

def deltaPct : Option Binary64 := numberAt signal.metricRegression "delta_pct"

def resourceAttributes : Dict := dictAt signal.members "resource_attributes"

def attributes : Dict := dictAt signal.metricRegression "attributes"

end MetricSignal

/-- Python's `re`, ignoring case. -/
structure Regex where
  /-- what `re.compile` finds wrong with a pattern -/
  fault : String → Option String
  search : String → String → Bool

/-- `MetricActionMatcher`. -/
structure Matcher where
  regex : Regex
  rules : List MetricActionRule
  compiledPatterns : Table String

variable (regex : Regex)

/-- One round of the loop of `__init__`. -/
def compileRule (table : Table String) (rule : MetricActionRule) :
    Except PyError (Table String) :=
  if rule.matchSpec.metricNamePattern = "" then .ok table
  else
    match regex.fault rule.matchSpec.metricNamePattern with
    | none => .ok (table.insert rule.name rule.matchSpec.metricNamePattern)
    | some fault =>
      valueError ("rule " ++ pyRepr rule.name ++ " has invalid metric_name_pattern: " ++ fault)

variable (rules : List MetricActionRule)

def Matcher.init : Except PyError Matcher := do
  let table ← rules.foldlM (compileRule regex) ∅
  return { regex := regex, rules := rules, compiledPatterns := table }

def attributeMatches (actual expected : Json) : Bool :=
  if expected.pyEq (.str "*") then actual != .null else actual.pyEq expected

/-- The first condition of `_try_match`: the pattern is looked up by the rule's name. -/
def Matcher.tryName (matcher : Matcher) (rule : MetricActionRule) (signal : MetricSignal)
    (evidence : Dict) : Option Dict :=
  match matcher.compiledPatterns[rule.name]? with
  | none => some evidence
  | some pattern =>
    if matcher.regex.search pattern signal.metricName then
      some (evidence.set "metric_name_matched" (.str signal.metricName))
    else none

/-- `float(observed) <= float(baseline)` and the like: the direction is contradicted. -/
def against (direction : String) (observed baseline : Binary64) : Bool :=
  (direction == "increasing" && observed.le baseline) ||
    (direction == "decreasing" && baseline.le observed)

variable (spec : MatchSpec)

/-- The second condition of `_try_match`. -/
def tryDirection (signal : MetricSignal) (evidence : Dict) : Option Dict :=
  match signal.observed, signal.baseline with
  | some observed, some baseline =>
    if spec.direction = "" then some evidence
    else if against spec.direction observed baseline then none
    else some (evidence.set "direction" (.str spec.direction))
  | _, _ => some evidence

/-- `abs(x)`. -/
def absolute (x : Binary64) : Binary64 := if x.lt (.finite 0) then x.neg else x

/-- The third condition of `_try_match`. -/
def tryDelta (signal : MetricSignal) (evidence : Dict) : Option Dict :=
  if spec.deltaPctMin.isNone && spec.deltaPctMax.isNone then some evidence
  else
    match signal.deltaPct with
    | none => none
    | some delta =>
      if spec.deltaPctMin.any fun bound => (absolute delta).lt bound.1 then none
      else if spec.deltaPctMax.any fun bound => bound.1.lt (absolute delta) then none
      else some (evidence.set "delta_pct" (getOr signal.metricRegression "delta_pct" .null))

/-- The last two conditions of `_try_match`: a loop over the attributes a rule asks
for. -/
def tryAttributes (label : String) (given : Dict) : Dict → Dict → Option Dict
  | [], evidence => some evidence
  | (key, expected) :: rest, evidence =>
    let actual := getOr given key .null
    if attributeMatches actual expected then
      tryAttributes label given rest
        (evidence.set label (.obj ((dictAt evidence label).set key actual)))
    else none

/-- `_try_match`: the evidence, if all conditions hold. -/
def Matcher.tryMatch (matcher : Matcher) (rule : MetricActionRule) (signal : MetricSignal) :
    Option Dict := do
  let evidence ← matcher.tryName rule signal []
  let evidence ← tryDirection rule.matchSpec signal evidence
  let evidence ← tryDelta rule.matchSpec signal evidence
  let evidence ← tryAttributes "resource_attributes" signal.resourceAttributes
    rule.matchSpec.resourceAttributes evidence
  tryAttributes "attributes" signal.attributes rule.matchSpec.attributes evidence

/-- `text.split(".")`. -/
def segmentsOf (text : List Char) : List (List Char) := text.splitOn '.'

def longestKey (members : Dict) (segments : List (List Char)) : Nat → Option (Nat × Json)
  | 0 => none
  | count + 1 =>
    match members.get? (String.ofList (['.'].intercalate (segments.take (count + 1)))) with
    | some value => some (count + 1, value)
    | none => longestKey members segments count

/-- The loop of `_resolve_path`; every round uses up a segment. -/
def resolveSegments : Nat → List (List Char) → Json → Option Json
  | rounds + 1, segment :: rest, .obj members => do
    let (count, value) ← longestKey members (segment :: rest) (rest.length + 1)
    resolveSegments rounds ((segment :: rest).drop count) value
  | _, _, cursor => some cursor

def resolvePath (path : List Char) (signal : Dict) : Json :=
  let segments := segmentsOf path
  match signal.get? (String.ofList path) with
  | none | some (.obj _) => (resolveSegments segments.length segments (.obj signal)).getD .null
  | some value => value

/-- `_render_placeholder`: `{path}` is replaced by what stands at the path, nothing by
the empty text. -/
def renderFrom (signal : Dict) : Nat → List Char → List Char
  | rounds + 1, c :: rest =>
    let inside := rest.takeWhile fun d => d != '\x7b' && d != '\x7d'
    let after := rest.drop inside.length
    if c = '\x7b' ∧ inside ≠ [] ∧ after.head? = some '\x7d' then
      let value := resolvePath (pyStrip (String.ofList inside)).toList signal
      (if value = .null then [] else (pyStr value).toList) ++
        renderFrom signal rounds (after.drop 1)
    else c :: renderFrom signal rounds rest
  | _, _ => []

def renderPlaceholder (template : String) (signal : Dict) : String :=
  String.ofList (renderFrom signal template.length template.toList)

/-- `-value` of a number. -/
def negated : Json → Json
  | .bool b => .int (if b then -1 else 0)
  | .int n => .int (-n)
  | .float neg mant exp => .float (!neg) mant exp
  | value => value

/-- `a > b` on numbers. -/
def above (a b : Json) : Bool :=
  match asNumber? a, asNumber? b with
  | some a, some b => b.exact.lt a.exact
  | _, _ => false

def clampSigned (value bound : Json) : Json :=
  if above value bound then bound
  else if above (negated bound) value then negated bound
  else value

/-- A parameter of the proposal, before it is clamped. -/
def renderValue (signal : Dict) (value : Json) : Json :=
  match value with
  | .str text => if '\x7b' ∈ text.toList then .str (renderPlaceholder text signal) else value
  | _ => value

def renderParameters (rule : MetricActionRule) (signal : Dict) : Dict :=
  let rendered : Dict :=
    rule.propose.parameters.map fun entry => (entry.1, renderValue signal entry.2)
  match rule.bounds.get? "replicas_delta_max", Dict.get? rendered "replicas_delta" with
  | none, _ | some .null, _ | _, none => rendered
  | some bound, some value =>
    if (asNumber? value).isSome then Dict.set rendered "replicas_delta" (clampSigned value bound)
    else rendered

structure RuleMatch where
  ruleName : String
  decisionType : String
  system : String
  action : String
  parameters : Dict
  confidence : Binary64
  riskLevel : String
  rollbackPlan : String
  bounds : Dict
  matchedOn : Dict

/-- What `match` makes of the rule it has found. -/
def MetricActionRule.matched (rule : MetricActionRule) (signal : MetricSignal) (evidence : Dict) :
    RuleMatch :=
  { ruleName := rule.name, decisionType := rule.propose.decisionType,
    system := rule.propose.system, action := rule.propose.action,
    parameters := renderParameters rule signal.members, confidence := rule.confidence,
    riskLevel := rule.riskLevel,
    rollbackPlan := if rule.rollbackPlan = "" then
      "undo the last " ++ rule.propose.action ++ " action" else rule.rollbackPlan,
    bounds := rule.bounds, matchedOn := evidence }

/-- The loop of `match`, which also tells at which place it has found the rule. -/
def Matcher.search (matcher : Matcher) (signal : MetricSignal) :
    Nat → List MetricActionRule → Option (Nat × RuleMatch)
  | _, [] => none
  | place, rule :: rest =>
    match matcher.tryMatch rule signal with
    | some evidence => some (place, rule.matched signal evidence)
    | none => matcher.search signal (place + 1) rest

/-- `match`, with the place of the rule. -/
def Matcher.matchAt (matcher : Matcher) (signal : MetricSignal) : Option (Nat × RuleMatch) :=
  matcher.search signal 0 matcher.rules

def Matcher.match (matcher : Matcher) (signal : MetricSignal) : Option RuleMatch :=
  (matcher.matchAt signal).map (·.2)

/-- `metric_name_pattern`, looked for in the metric's name; a missing one matches
everything. -/
def NameFits (pattern : Option String) (signal : MetricSignal) : Prop :=
  ∀ text, pattern = some text → regex.search text signal.metricName = true

def MatchSpec.ownPattern : Option String :=
  if spec.metricNamePattern = "" then none else some spec.metricNamePattern

/-- `direction`: where both values are there, the observed one lies on the named side of
the baseline. -/
def DirectionFits (signal : MetricSignal) : Prop :=
  ∀ observed baseline, signal.observed = some observed → signal.baseline = some baseline →
    (spec.direction = "increasing" → baseline.lt observed = true) ∧
    (spec.direction = "decreasing" → observed.lt baseline = true)

/-- `delta_pct_min` and `delta_pct_max`: bounds, themselves included, on the size of a known
change. -/
def DeltaFits (signal : MetricSignal) : Prop :=
  (∀ bound, spec.deltaPctMin = some bound →
    ∃ delta, signal.deltaPct = some delta ∧ bound.1.le (absolute delta) = true) ∧
  (∀ bound, spec.deltaPctMax = some bound →
    ∃ delta, signal.deltaPct = some delta ∧ (absolute delta).le bound.1 = true)

/-- Every pair is there; `"*"` stands for any value. -/
def PairsPresent (given asked : Dict) : Prop :=
  ∀ pair ∈ asked, ∃ value, given.get? pair.1 = some value ∧
    (pair.2.pyEq (.str "*") = true ∨ value.pyEq pair.2 = true)

/-- A rule's documented conditions hold of a signal. -/
structure Holds (rule : MetricActionRule) (signal : MetricSignal) : Prop where
  name : NameFits regex rule.matchSpec.ownPattern signal
  direction : DirectionFits rule.matchSpec signal
  delta : DeltaFits rule.matchSpec signal
  resourceAttributes : PairsPresent signal.resourceAttributes rule.matchSpec.resourceAttributes
  attributes : PairsPresent signal.attributes rule.matchSpec.attributes

/-- The matcher answers with the first rule whose documented conditions hold, and with
nothing where there is none. -/
def AnswersFirst (matcher : Matcher) (signal : MetricSignal) : Prop :=
  match matcher.matchAt signal with
  | none => ∀ rule ∈ matcher.rules, ¬ Holds matcher.regex rule signal
  | some (place, found) =>
    (∃ rule evidence, matcher.rules[place]? = some rule ∧ Holds matcher.regex rule signal ∧
      found = rule.matched signal evidence) ∧
    ∀ before earlier, before < place → matcher.rules[before]? = some earlier →
      ¬ Holds matcher.regex earlier signal

def lastPattern (name : String) : Option String :=
  (rules.filterMap fun rule =>
    if rule.name = name then rule.matchSpec.ownPattern else none).getLast?

/-- What the code asks of attributes: a value that is missing and one that is `null`
are the same. -/
def PairsMatch (given asked : Dict) : Prop :=
  ∀ pair ∈ asked, attributeMatches (getOr given pair.1 .null) pair.2 = true

/-- With the last pattern of its name, and `null` for what is missing, the verdict is another. -/
structure Misread (rule : MetricActionRule)
    (signal : MetricSignal) : Prop where
  direction : DirectionFits rule.matchSpec signal
  delta : DeltaFits rule.matchSpec signal
  differs : ¬ ((NameFits regex rule.matchSpec.ownPattern signal ∧
      PairsPresent signal.resourceAttributes rule.matchSpec.resourceAttributes ∧
      PairsPresent signal.attributes rule.matchSpec.attributes) ↔
    (NameFits regex (lastPattern rules rule.name) signal ∧
      PairsMatch signal.resourceAttributes rule.matchSpec.resourceAttributes ∧
      PairsMatch signal.attributes rule.matchSpec.attributes))

variable {x : Binary64}

theorem double_ne_nan {value : Json} (h : double? value = some x) : x ≠ .nan := by
  obtain ⟨number, hnumber, hdouble⟩ := Option.bind_eq_some_iff.mp h
  cases number with
  | int n =>
    have hok : Number.toDouble (.int n) = .ok x := by
      cases hcase : Number.toDouble (.int n) with
      | error e => simp [hcase, Except.toOption] at hdouble
      | ok y => simpa [hcase, Except.toOption] using hdouble
    have hnearest : x = Binary64.nearest n := by
      simp only [Number.toDouble] at hok
      split at hok
      · cases hok
      · exact (Except.ok.inj hok).symm
    exact hnearest ▸ Binary64.nearest_ne_nan n
  | float y =>
    have hy : y = x := by simpa [Number.toDouble, Except.toOption] using hdouble
    cases value with
    | float neg mant exp =>
      have hof : doubleOf neg mant exp = y := by simpa [asNumber?] using hnumber
      rw [← hy, ← hof]
      exact Binary64.nearest_ne_nan _
    | null | bool | int | str | arr | obj => simp [asNumber?] at hnumber

theorem numberAt_ne_nan {d : Dict} {key : String} (h : numberAt d key = some x) : x ≠ .nan := by
  obtain ⟨value, -, hvalue⟩ := Option.bind_eq_some_iff.mp h
  exact double_ne_nan hvalue

theorem absolute_ne_nan (h : x ≠ .nan) : absolute x ≠ .nan := by
  unfold absolute
  split
  · cases x <;> simp_all [Binary64.neg]
  · exact h

variable {matcher : Matcher} {rule : MetricActionRule} {signal : MetricSignal} {evidence : Dict}

theorem tryName_isSome_iff :
    (matcher.tryName rule signal evidence).isSome = true ↔
      NameFits matcher.regex matcher.compiledPatterns[rule.name]? signal := by
  unfold Matcher.tryName NameFits
  cases matcher.compiledPatterns[rule.name]? <;> simp

theorem tryDirection_isSome_iff {spec : MatchSpec} :
    (tryDirection spec signal evidence).isSome = true ↔ DirectionFits spec signal := by
  unfold tryDirection DirectionFits
  cases hobserved : signal.observed with
  | none => simp
  | some observed =>
    cases hbaseline : signal.baseline with
    | none => simp
    | some baseline =>
      have hup := Binary64.le_eq_not_lt (numberAt_ne_nan hobserved) (numberAt_ne_nan hbaseline)
      have hdown :=
        Binary64.le_eq_not_lt (numberAt_ne_nan hbaseline) (numberAt_ne_nan hobserved)
      by_cases hempty : spec.direction = ""
      · simp [hempty]
      · by_cases hincreasing : spec.direction = "increasing"
        · simp [against, hincreasing, hup]
        · by_cases hdecreasing : spec.direction = "decreasing"
          · simp [against, hdecreasing, hdown]
          · simp [against, hempty, hincreasing, hdecreasing]

theorem tryDelta_isSome_iff {spec : MatchSpec} :
    (tryDelta spec signal evidence).isSome = true ↔ DeltaFits spec signal := by
  unfold tryDelta DeltaFits
  cases hdelta : signal.deltaPct with
  | none => cases spec.deltaPctMin <;> cases spec.deltaPctMax <;> simp
  | some delta =>
    have hreal : absolute delta ≠ .nan := absolute_ne_nan (numberAt_ne_nan hdelta)
    have hlow (bound : Bound) := Binary64.le_eq_not_lt bound.2 hreal
    have hhigh (bound : Bound) := Binary64.le_eq_not_lt hreal bound.2
    cases spec.deltaPctMin with
    | none => cases spec.deltaPctMax <;> simp [hhigh]
    | some low =>
      cases spec.deltaPctMax with
      | none => simp [hlow]
      | some high =>
        by_cases hbelow : (absolute delta).lt low.1 = true <;> simp [hlow, hhigh, hbelow]

theorem tryAttributes_isSome_iff {label : String} {given asked : Dict} :
    (tryAttributes label given asked evidence).isSome = true ↔ PairsMatch given asked := by
  induction asked generalizing evidence with
  | nil => simp [tryAttributes, PairsMatch]
  | cons pair rest ih =>
    obtain ⟨key, expected⟩ := pair
    by_cases hmatches : attributeMatches (getOr given key .null) expected = true
    · simp only [tryAttributes, hmatches, if_true, ih, PairsMatch, List.forall_mem_cons,
        true_and]
    · simp [tryAttributes, PairsMatch, hmatches]

/-- Two conditions in turn, where the second does not depend on the evidence so far. -/
theorem isSome_bind_iff {x : Option Dict} {f : Dict → Option Dict} {P Q : Prop}
    (hx : x.isSome = true ↔ P) (hf : ∀ evidence, (f evidence).isSome = true ↔ Q) :
    (x >>= f).isSome = true ↔ P ∧ Q := by
  cases x with
  | none => simp at hx; simp [hx]
  | some evidence => simp at hx; simpa [hx] using hf evidence

/-- **What `_try_match` asks.** -/
theorem tryMatch_isSome_iff :
    (matcher.tryMatch rule signal).isSome = true ↔
      NameFits matcher.regex matcher.compiledPatterns[rule.name]? signal ∧
      DirectionFits rule.matchSpec signal ∧ DeltaFits rule.matchSpec signal ∧
      PairsMatch signal.resourceAttributes rule.matchSpec.resourceAttributes ∧
      PairsMatch signal.attributes rule.matchSpec.attributes := by
  exact isSome_bind_iff tryName_isSome_iff fun _ =>
    isSome_bind_iff tryDirection_isSome_iff fun _ =>
    isSome_bind_iff tryDelta_isSome_iff fun _ =>
    isSome_bind_iff tryAttributes_isSome_iff fun _ => tryAttributes_isSome_iff

theorem lastPattern_append (rule : MetricActionRule)
    (name : String) :
    lastPattern (rules ++ [rule]) name =
      if rule.name = name then rule.matchSpec.ownPattern.or (lastPattern rules name)
      else lastPattern rules name := by
  unfold lastPattern
  by_cases hname : rule.name = name
  · cases hown : rule.matchSpec.ownPattern <;> simp [hname, hown]
  · simp [hname]

theorem compileRule_ok {regex : Regex} {table next : Table String}
    (h : compileRule regex table rule = .ok next) (name : String) :
    next[name]? =
      if rule.name = name then rule.matchSpec.ownPattern.or table[name]? else table[name]? := by
  unfold compileRule at h
  unfold MatchSpec.ownPattern
  by_cases hempty : rule.matchSpec.metricNamePattern = ""
  · rw [if_pos hempty] at h
    cases h
    simp [hempty]
  · rw [if_neg hempty] at h
    cases hfault : regex.fault rule.matchSpec.metricNamePattern with
    | some fault => simp [hfault, valueError] at h
    | none =>
      simp only [hfault, Except.ok.injEq] at h
      subst h
      by_cases hname : rule.name = name
      · simp [hempty, hname]
      · simp [hname, Std.ExtTreeMap.getElem?_insert]

/-- **The table of a matcher.**  Under a name stands the pattern of the last rule that
has this name and a pattern. -/
theorem compiledPatterns_eq {regex : Regex} {rules : List MetricActionRule}
    (h : Matcher.init regex rules = .ok matcher) :
    matcher.regex = regex ∧ matcher.rules = rules ∧
      ∀ name, matcher.compiledPatterns[name]? = lastPattern rules name := by
  obtain ⟨table, htable, hmatcher⟩ := bind_ok h
  cases hmatcher
  refine ⟨rfl, rfl, ?_⟩
  have hloop (done rest : List MetricActionRule) (start : Table String)
      (hstart : ∀ name, start[name]? = lastPattern done name)
      (hrest : rest.foldlM (compileRule regex) start = .ok table) (name : String) :
      table[name]? = lastPattern (done ++ rest) name := by
    induction rest generalizing done start with
    | nil => cases hrest; simpa using hstart name
    | cons rule rest ih =>
      obtain ⟨next, hnext, hrest⟩ := bind_ok hrest
      have hkept (name : String) : next[name]? = lastPattern (done ++ [rule]) name := by
        rw [compileRule_ok hnext, lastPattern_append, hstart]
      simpa using ih (done ++ [rule]) next hkept hrest
  intro name
  simpa using hloop [] rules ∅ (fun name => by simp [lastPattern]) htable name

/-- **The loop of `match`.**  It ends at the first rule that passes. -/
theorem search_spec (matcher : Matcher) (signal : MetricSignal) (place : Nat)
    (rules : List MetricActionRule) :
    match matcher.search signal place rules with
    | none => ∀ rule ∈ rules, matcher.tryMatch rule signal = none
    | some (found, ruleMatch) =>
      ∃ offset rule evidence, found = place + offset ∧ rules[offset]? = some rule ∧
        matcher.tryMatch rule signal = some evidence ∧
        ruleMatch = rule.matched signal evidence ∧
        ∀ before earlier, before < offset → rules[before]? = some earlier →
          matcher.tryMatch earlier signal = none := by
  induction rules generalizing place with
  | nil => simp [Matcher.search]
  | cons rule rest ih =>
    cases hrule : matcher.tryMatch rule signal with
    | some evidence =>
      simp only [Matcher.search, hrule]
      exact ⟨0, rule, evidence, rfl, rfl, hrule, rfl,
        fun _ _ hbefore => absurd hbefore (by simp)⟩
    | none =>
      have hrest := ih (place + 1)
      simp only [Matcher.search, hrule]
      cases hsearch : matcher.search signal (place + 1) rest with
      | none =>
        rw [hsearch] at hrest
        simpa [hrule] using hrest
      | some answer =>
        rw [hsearch] at hrest
        obtain ⟨offset, found, evidence, hplace, hat, hfound, hmatch, hearlier⟩ := hrest
        refine ⟨offset + 1, found, evidence, by omega, by simpa using hat, hfound, hmatch, ?_⟩
        intro before earlier hbefore hget
        cases before with
        | zero =>
          obtain rfl : rule = earlier := by simpa using hget
          exact hrule
        | succ before => exact hearlier before earlier (by omega) (by simpa using hget)

theorem misread_iff {regex : Regex} {rules : List MetricActionRule}
    (h : Matcher.init regex rules = .ok matcher) (rule : MetricActionRule) (signal : MetricSignal) :
    Misread regex rules rule signal ↔
      ¬ (Holds regex rule signal ↔ (matcher.tryMatch rule signal).isSome = true) := by
  obtain ⟨hregex, -, htable⟩ := compiledPatterns_eq h
  rw [tryMatch_isSome_iff, hregex, htable]
  constructor
  · rintro ⟨hdirection, hdelta, hdiffers⟩ hsame
    refine hdiffers ⟨?_, ?_⟩
    · rintro ⟨hname, hresource, hattributes⟩
      obtain ⟨hname', -, -, hresource', hattributes'⟩ :=
        hsame.mp ⟨hname, hdirection, hdelta, hresource, hattributes⟩
      exact ⟨hname', hresource', hattributes'⟩
    · rintro ⟨hname, hresource, hattributes⟩
      obtain ⟨hname', -, -, hresource', hattributes'⟩ :=
        hsame.mpr ⟨hname, hdirection, hdelta, hresource, hattributes⟩
      exact ⟨hname', hresource', hattributes'⟩
  · intro hdiffers
    by_cases hboth : DirectionFits rule.matchSpec signal ∧ DeltaFits rule.matchSpec signal
    · refine ⟨hboth.1, hboth.2, fun hsame => hdiffers ⟨?_, ?_⟩⟩
      · rintro ⟨hname, -, -, hresource, hattributes⟩
        obtain ⟨hname', hresource', hattributes'⟩ := hsame.mp ⟨hname, hresource, hattributes⟩
        exact ⟨hname', hboth.1, hboth.2, hresource', hattributes'⟩
      · rintro ⟨hname, -, -, hresource, hattributes⟩
        obtain ⟨hname', hresource', hattributes'⟩ := hsame.mpr ⟨hname, hresource, hattributes⟩
        exact ⟨hname', hboth.1, hboth.2, hresource', hattributes'⟩
    · refine absurd ⟨?_, ?_⟩ hdiffers
      · rintro ⟨-, hdirection, hdelta, -, -⟩
        exact absurd ⟨hdirection, hdelta⟩ hboth
      · rintro ⟨-, hdirection, hdelta, -, -⟩
        exact absurd ⟨hdirection, hdelta⟩ hboth

theorem AnswersFirst.of_match_none (h : AnswersFirst matcher signal)
    (hnone : matcher.match signal = none) :
    ∀ rule ∈ matcher.rules, ¬ Holds matcher.regex rule signal := by
  unfold AnswersFirst at h
  rw [Option.map_eq_none_iff.mp hnone] at h
  exact h

def plainText : Regex where
  fault _ := none
  search pattern text :=
    decide (pattern.toList.map Char.toLower <:+: text.toList.map Char.toLower)

def plainRule (name pattern action : String) (named : name ≠ "") : MetricActionRule where
  name := name
  matchSpec := { metricNamePattern := pattern }
  propose := { decisionType := action, system := "kubernetes_service", action := action,
               parameters := [] }
  named := named
  confident := by decide +kernel
  levelled := by decide
  clamped := rfl

def queueSignal : MetricSignal where
  members := [("metric_regression", .obj [("metric_name", .str "worker.queue_depth"),
    ("observed_value", .int 90), ("baseline_value", .int 30)])]
  typed := by decide +kernel

def distinctRules : List MetricActionRule :=
  [plainRule "lag" "consumer_lag" "restart_deployment" (by decide),
    plainRule "queue" "queue_depth" "scale_deployment" (by decide)]

def namesakes : List MetricActionRule :=
  [plainRule "scale" "queue_depth" "scale_deployment" (by decide),
    plainRule "scale" "consumer_lag" "scale_deployment" (by decide)]

end OrbitalMesh.Decision.MetricRules
