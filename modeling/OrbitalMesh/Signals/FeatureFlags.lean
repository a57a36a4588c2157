import OrbitalMesh.Base.Rounding
import OrbitalMesh.Decision.FeatureFlags
import OrbitalMesh.Signals.Envelope

/-!
# From feature-flag signals to triggers

`TriggerService._detect_feature_flag_trigger` compares the telemetry before and after a
change of a flag.  A payload of this kind has passed no schema: what is missing or of a
wrong type raises, and only the finished trigger is validated.
-/

namespace OrbitalMesh.Signals

open OrbitalMesh.Decision

variable (value : Json)

/-- `value[key]`. -/
def item (key : String) : Except PyError Json :=
  match value with
  | .obj members =>
    match Dict.get? members key with
    | some member => .ok member
    | none => .error ⟨.keyError, pyRepr key⟩
  | .arr _ => typeError "list indices must be integers or slices, not str"
  | .str _ => typeError "string indices must be integers, not 'str'"
  | other => typeError ("'" ++ typeName other ++ "' object is not subscriptable")

/-- `value * factor`. -/
def scaled (factor : Binary64) : Except PyError Binary64 :=
  match value with
  | .str _ | .arr _ => typeError "can't multiply sequence by non-int of type 'float'"
  | value =>
    match asNumber? value with
    | some number => do
      let double ← number.toDouble
      return double.mul factor
    | none =>
      typeError ("unsupported operand type(s) for *: '" ++ typeName value ++ "' and 'float'")

/-- `observed >= bound`. -/
def reaches (observed : Json) (bound : Binary64) : Except PyError Bool := do
  let exact ← compared observed
  return bound.le exact

variable (baseline observed : Json)

/-- `observed["p95_latency_ms"] >= baseline["p95_latency_ms"] * 1.25`. -/
def latencyWorse : Except PyError Bool := do
  let after ← item observed "p95_latency_ms"
  let before ← item baseline "p95_latency_ms"
  let bound ← scaled before 1.25
  reaches after bound

/-- `baseline["error_rate"] > 0 and observed["error_rate"] >= baseline["error_rate"] * 1.5`. -/
def errorWorse : Except PyError Bool := do
  let before ← item baseline "error_rate"
  let rate ← compared before
  if (Binary64.finite 0).lt rate then do
    let after ← item observed "error_rate"
    let bound ← scaled before 1.5
    reaches after bound
  else .ok false

/-- `observed.get("timeout_rate", 0.0) >= 0.02`. -/
def timeoutWorse (observed : Json) : Except PyError Bool := do
  let members ← membersOf observed
  reaches (getOr members "timeout_rate" (.float false 0 0)) 0.02

/-- The three tests. -/
structure Regressions where
  latency : Bool
  error : Bool
  timeout : Bool

/-- The three tests, one after the other. -/
def regressionsOf : Except PyError Regressions := do
  let latency ← latencyWorse baseline observed
  let error ← errorWorse baseline observed
  let timeout ← timeoutWorse observed
  return { latency, error, timeout }

namespace Regressions

/-- One of the tests has fired. -/
def any (regressions : Regressions) : Bool :=
  regressions.latency || regressions.error || regressions.timeout

/-- `trigger_signals`. -/
def signals (regressions : Regressions) : Json :=
  .arr (((if regressions.latency then ["latency_regression"] else []) ++
    (if regressions.error then ["error_regression"] else []) ++
    (if regressions.timeout then ["timeout_regression"] else [])).map .str)

end Regressions

def triggerMetricsSchema : Schema :=
  let number : Schema := { types := [.number, .null] }
  let integer : Schema := { types := [.integer, .null] }
  Schema.record
    ["baseline_p95_latency_ms", "observed_p95_latency_ms", "baseline_error_rate",
     "observed_error_rate", "sample_size"]
    [("baseline_p95_latency_ms", number), ("observed_p95_latency_ms", number),
     ("baseline_error_rate", number), ("observed_error_rate", number),
     ("baseline_timeout_rate", number), ("observed_timeout_rate", number),
     ("sample_size", integer), ("restart_count_total", integer), ("desired_replicas", integer),
     ("available_replicas", integer), ("peer_count", integer), ("block_lag", integer),
     ("disk_used_pct", number)]

/-- `trigger.schema.json`. -/
def triggerSchema : Schema :=
  Schema.record
    ["trigger_id", "trigger_type", "triggered_at", "environment", "service", "endpoint",
     "flag_key", "current_rollout_pct", "comparison_window", "segment", "metrics",
     "related_context"]
    [("trigger_id", .text),
     ("trigger_type", .textIn ["feature_flag_performance_regression",
       "kubernetes_deployment_unhealthy", "otel_metric_regression", "reth_node_degraded",
       "webhook_alert_firing", "generic_signal_firing"]),
     ("triggered_at", .text), ("environment", .text), ("service", .text), ("endpoint", .text),
     ("flag_key", { types := [.string, .null] }),
     ("current_rollout_pct", { types := [.integer, .null] }),
     ("comparison_window",
       { Schema.record ["baseline", "observed"] [("baseline", .text), ("observed", .text)] with
         types := [.object, .null] }),
     ("segment", Schema.record [] [("customer_tier", .text), ("region", .text)]),
     ("metrics", triggerMetricsSchema),
     ("related_context", triggerContextSchema)]

/-- `under_rollback`, or the suppressions of the context. -/
def flagSuppressed (featureFlag relatedContext : Json) : Except PyError Bool := do
  let flag ← membersOf featureFlag
  if flagAt flag "under_rollback" false then .ok true
  else do
    let context ← membersOf relatedContext
    return suppressed context

/-- `metrics` of the trigger. -/
def flagMetrics (telemetry baseline observed : Json) : Except PyError Dict := do
  let latencyBefore ← item baseline "p95_latency_ms"
  let latencyAfter ← item observed "p95_latency_ms"
  let errorsBefore ← item baseline "error_rate"
  let errorsAfter ← item observed "error_rate"
  let before ← membersOf baseline
  let after ← membersOf observed
  let sampleSize ← item telemetry "sample_size"
  return [
    ("baseline_p95_latency_ms", latencyBefore), ("observed_p95_latency_ms", latencyAfter),
    ("baseline_error_rate", errorsBefore), ("observed_error_rate", errorsAfter),
    ("baseline_timeout_rate", getOr before "timeout_rate" .null),
    ("observed_timeout_rate", getOr after "timeout_rate" .null),
    ("sample_size", sampleSize)]

/-- The beginning of `trigger_context`, for a sample that is large and persistent. -/
def contextBase (release : Json) (minutes : Int) (signals : Json) (context : Dict) : Dict :=
  [("release_id", release),
   ("active_incidents", getOr context "active_incidents" (.int 0)),
   ("similar_prior_cases", getOr context "similar_prior_cases" (.int 0)),
   ("rollbacks_last_24h", getOr context "rollbacks_last_24h" (.int 0)),
   ("regressions_last_7d", getOr context "regressions_last_7d" (.int 0)),
   ("minutes_since_flag_change", .int minutes),
   ("trigger_signals", signals),
   ("signal_quality", .obj [("sample_size_ok", .bool true), ("persistent", .bool true)])]

/-- `trigger_context`; the context that the client sent along comes last. -/
def flagContext (payload : Json) (minutes : Int) (regressions : Regressions) (context : Dict) :
    Except PyError Dict := do
  let deployment ← item payload "deployment"
  let release ← item deployment "release_id"
  return (contextBase release minutes regressions.signals context).update context

def triggerMembers (front metrics context : Dict) : Dict :=
  front ++ [("metrics", .obj metrics), ("related_context", .obj context)]

/-- The trigger, as a dictionary, before it is validated. -/
def flagTrigger (envelope : EventEnvelope) (featureFlag : Json) (metrics context : Dict) :
    Except PyError Dict := do
  let payload := Json.obj envelope.payload
  let environment ← item payload "environment"
  let service ← item payload "service"
  let endpoint ← item payload "endpoint"
  let flagKey ← item featureFlag "flag_key"
  let rollout ← item featureFlag "current_rollout_pct"
  let window ← item payload "comparison_window"
  let segment ← item payload "segment"
  return triggerMembers [
    ("trigger_id", .str ("trg_" ++ envelope.objectId)),
    ("trigger_type", .str "feature_flag_performance_regression"),
    ("triggered_at", .str envelope.emittedAt),
    ("environment", environment), ("service", service), ("endpoint", endpoint),
    ("flag_key", flagKey), ("current_rollout_pct", rollout), ("comparison_window", window),
    ("segment", segment)] metrics context

/-- What is read of a signal before the tests. -/
structure FlagSignal where
  featureFlag : Json
  telemetry : Json
  baseline : Json
  observed : Json
  relatedContext : Json
  minutes : Int

variable (minutes : String → Json → Except PyError Int)

/-- `minutes` is the number of minutes between two timestamps, the first a text. -/
def flagSignal (envelope : EventEnvelope) :
    Except PyError FlagSignal := do
  let payload := Json.obj envelope.payload
  let featureFlag ← item payload "feature_flag"
  let telemetry ← item payload "request_telemetry"
  let baseline ← item telemetry "baseline"
  let observed ← item telemetry "observed"
  let relatedContext ← item payload "related_context"
  let changedAt ← item featureFlag "changed_at"
  let minutes ← minutes envelope.emittedAt changedAt
  return { featureFlag, telemetry, baseline, observed, relatedContext, minutes }

/-- `telemetry["sample_size"] >= 500`. -/
def sampleSizeOk (telemetry : Json) : Except PyError Bool := do
  let sampleSize ← item telemetry "sample_size"
  reaches sampleSize (.finite 500)

/-- `telemetry.get("persistent_windows", 0) >= 2`. -/
def persistent (telemetry : Json) : Except PyError Bool := do
  let members ← membersOf telemetry
  reaches (getOr members "persistent_windows" (.int 0)) (.finite 2)

def fireFlag (envelope : EventEnvelope) (signal : FlagSignal) (regressions : Regressions) :
    Except PyError Dict := do
  let given ← membersOf signal.relatedContext
  let context ← flagContext (.obj envelope.payload) signal.minutes regressions given
  let metrics ← flagMetrics signal.telemetry signal.baseline signal.observed
  let trigger ← flagTrigger envelope signal.featureFlag metrics context
  validatePayload triggerSchema (.obj trigger)
  return trigger

/-- The change of the flag is at most half an hour old. -/
def FlagSignal.recent (signal : FlagSignal) : Bool :=
  decide (0 ≤ signal.minutes ∧ signal.minutes ≤ 30)

def detectFeatureFlagTrigger (envelope : EventEnvelope) : Except PyError (Option Dict) := do
  let signal ← flagSignal minutes envelope
  let sampleSizeOk ← sampleSizeOk signal.telemetry
  let regressions ← regressionsOf signal.baseline signal.observed
  let persistent ← persistent signal.telemetry
  let held ← flagSuppressed signal.featureFlag signal.relatedContext
  if signal.recent && sampleSizeOk && persistent && !held && regressions.any then do
    let trigger ← fireFlag envelope signal regressions
    return some trigger
  else return none

def rateOf? : Option Binary64 :=
  if matchesType value .number then (asNumber? value).map Number.exact else none

/-- Both are rates, and the first is at most as high. -/
def RateLe (low high : Json) : Prop :=
  ∃ x y, rateOf? low = some x ∧ rateOf? high = some y ∧ x.le y = true

instance (low high : Json) : Decidable (RateLe low high) :=
  decidable_of_iff
    (((rateOf? low).bind fun x => (rateOf? high).map fun y => x.le y) = some true) (by
      unfold RateLe
      cases rateOf? low <;> cases rateOf? high <;> simp)

/-- `payload["request_telemetry"]`. -/
def telemetryOf (envelope : EventEnvelope) : Dict :=
  objectAt envelope.payload "request_telemetry"

/-- `telemetry["baseline"]`. -/
def baselineOf (envelope : EventEnvelope) : Dict := objectAt (telemetryOf envelope) "baseline"

/-- `telemetry["observed"]`. -/
def observedOf (envelope : EventEnvelope) : Dict := objectAt (telemetryOf envelope) "observed"

/-- The second envelope differs from the first in telemetry only: with the same sample it
observes at least as high rates over at most as high baselines. -/
structure AtLeastAsBad (first second : EventEnvelope) : Prop where
  objectId : second.objectId = first.objectId
  emittedAt : second.emittedAt = first.emittedAt
  payload : ∀ key, key ≠ "request_telemetry" → second.payload.get? key = first.payload.get? key
  sampleSize : (telemetryOf second).get? "sample_size" = (telemetryOf first).get? "sample_size"
  persistentWindows : (telemetryOf second).get? "persistent_windows" =
    (telemetryOf first).get? "persistent_windows"
  latencyAfter : RateLe (getOr (observedOf first) "p95_latency_ms" .null)
    (getOr (observedOf second) "p95_latency_ms" .null)
  errorsAfter : RateLe (getOr (observedOf first) "error_rate" .null)
    (getOr (observedOf second) "error_rate" .null)
  timeoutsAfter : RateLe (getOr (observedOf first) "timeout_rate" (.float false 0 0))
    (getOr (observedOf second) "timeout_rate" (.float false 0 0))
  latencyBefore : RateLe (getOr (baselineOf second) "p95_latency_ms" .null)
    (getOr (baselineOf first) "p95_latency_ms" .null)
  errorsBefore : RateLe (getOr (baselineOf second) "error_rate" .null)
    (getOr (baselineOf first) "error_rate" .null)
  timeoutsBefore : getOr (baselineOf second) "timeout_rate" .null = .null ∨
    RateLe (getOr (baselineOf second) "timeout_rate" .null)
      (getOr (baselineOf first) "timeout_rate" .null)

def Fires (envelope : EventEnvelope) : Prop :=
  ∃ trigger, detectFeatureFlagTrigger minutes envelope = .ok (some trigger)

instance (minutes : String → Json → Except PyError Int) (envelope : EventEnvelope) :
    Decidable (Fires minutes envelope) :=
  decidable_of_iff ((detectFeatureFlagTrigger minutes envelope).toOption.join.isSome = true) (by
    unfold Fires
    cases detectFeatureFlagTrigger minutes envelope with
    | error e => simp [Except.toOption]
    | ok found => cases found <;> simp [Except.toOption])

/-- The value is no whole number that is too large for a double. -/
def Representable : Prop :=
  ∀ n, value = .int n → ∃ q, Binary64.nearest n = .finite q

def ErrorsBefore (envelope : EventEnvelope) : Prop :=
  ∃ x, rateOf? (getOr (baselineOf envelope) "error_rate" .null) = some x ∧
    (Binary64.finite 0).lt x = true

variable {members : Dict} {x : Binary64} {envelope : EventEnvelope} {key path : String}

theorem item_obj_ok_iff {value : Json} :
    item (.obj members) key = .ok value ↔ members.get? key = some value := by
  cases hget : Dict.get? members key <;> simp [item, hget]

theorem get?_of_rate (h : rateOf? (getOr members key .null) = some x) :
    members.get? key = some (getOr members key .null) := by
  cases hget : members.get? key with
  | none =>
    rw [getOr, hget] at h
    cases h
  | some value => rw [getOr, hget, Option.getD_some]

theorem get?_objectAt {d : Dict} {member : String}
    (h : rateOf? (getOr (objectAt d key) member .null) = some x) :
    d.get? key = some (.obj (objectAt d key)) := by
  unfold objectAt at h ⊢
  cases hget : d.get? key with
  | none =>
    rw [hget] at h
    cases h
  | some value =>
    rw [hget] at h
    cases value with
    | obj members => rfl
    | null | bool | int | float | str | arr => cases h

theorem compared_of_rate {value : Json} (h : rateOf? value = some x) : compared value = .ok x := by
  unfold rateOf? at h
  split at h
  · obtain ⟨number, hnumber, rfl⟩ := Option.map_eq_some_iff.mp h
    simp [compared, hnumber]
  · cases h

theorem scaled_ok_iff {value : Json} {factor z : Binary64} (h : rateOf? value = some x) :
    scaled value factor = .ok z ↔ Representable value ∧ z = x.shortened.mul factor := by
  unfold rateOf? at h
  split at h
  · cases value with
    | int n =>
      obtain rfl : Binary64.finite n = x := by simpa [asNumber?, Number.exact] using h
      simp only [scaled, asNumber?, Number.toDouble, Representable, Json.int.injEq, forall_eq',
        Binary64.shortened]
      cases hnearest : Binary64.nearest n with
      | finite q => simp [eq_comm, pure, Except.pure]
      | infinite s => simp
      | nan => exact absurd hnearest (Binary64.nearest_ne_nan _)
    | float neg mant exp =>
      obtain rfl : doubleOf neg mant exp = x := by simpa [asNumber?, Number.exact] using h
      have hshort : (doubleOf neg mant exp).shortened = doubleOf neg mant exp :=
        Binary64.shortened_nearest _
      simp [scaled, asNumber?, Number.toDouble, Representable, hshort, eq_comm, pure,
        Except.pure]
    | null | bool | str | arr | obj => simp_all [matchesType]
  · cases h

/-- The rates of an envelope that the tests read. -/
structure Rates where
  latencyBefore : Binary64
  errorsBefore : Binary64
  latencyAfter : Binary64
  errorsAfter : Binary64
  timeoutsAfter : Binary64

namespace Rates

def latencyTest (rates : Rates) : Bool :=
  (rates.latencyBefore.shortened.mul 1.25).le rates.latencyAfter

def errorTest (rates : Rates) : Bool :=
  (Binary64.finite 0).lt rates.errorsBefore &&
    (rates.errorsBefore.shortened.mul 1.5).le rates.errorsAfter

def timeoutTest (rates : Rates) : Bool := (0.02 : Binary64).le rates.timeoutsAfter

/-- The second rates are at least as bad. -/
structure Worse (first second : Rates) : Prop where
  latencyBefore : second.latencyBefore.le first.latencyBefore = true
  errorsBefore : second.errorsBefore.le first.errorsBefore = true
  latencyAfter : first.latencyAfter.le second.latencyAfter = true
  errorsAfter : first.errorsAfter.le second.errorsAfter = true
  timeoutsAfter : first.timeoutsAfter.le second.timeoutsAfter = true

variable {first second : Rates}

/-- A bound that is reached stays reached when the baseline falls and the observation
rises. -/
theorem bound_mono {before before' after after' : Binary64} {q : ℚ} (hq : 0 < q)
    (hbefore : before'.le before = true) (hafter : after.le after' = true)
    (h : (before.shortened.mul (.finite q)).le after = true) :
    (before'.shortened.mul (.finite q)).le after' = true := by
  have hbound := Binary64.mul_le_mul hq (Binary64.shortened_mono hbefore)
  exact Binary64.le_trans hbound (Binary64.le_trans h hafter)

theorem Worse.latencyTest (h : Worse first second) (htest : first.latencyTest = true) :
    second.latencyTest = true := by
  have hfactor : (1.25 : Binary64) = .finite (5 / 4) := by decide +kernel
  unfold Rates.latencyTest at htest ⊢
  rw [hfactor] at htest ⊢
  exact bound_mono (by norm_num) h.latencyBefore h.latencyAfter htest

theorem Worse.timeoutTest (h : Worse first second) (htest : first.timeoutTest = true) :
    second.timeoutTest = true :=
  Binary64.le_trans htest h.timeoutsAfter

/-- The errors stay worse unless their baseline falls to zero. -/
theorem Worse.errorTest (h : Worse first second) (htest : first.errorTest = true)
    (hpos : (Binary64.finite 0).lt second.errorsBefore = true) : second.errorTest = true := by
  have hfactor : (1.5 : Binary64) = .finite (3 / 2) := by decide +kernel
  unfold Rates.errorTest at htest ⊢
  rw [hfactor] at htest ⊢
  rw [Bool.and_eq_true] at htest ⊢
  exact ⟨hpos, bound_mono (by norm_num) h.errorsBefore h.errorsAfter htest.2⟩

end Rates

/-- The rates stand in the envelope. -/
structure HasRates (envelope : EventEnvelope) (rates : Rates) : Prop where
  latencyBefore :
    rateOf? (getOr (baselineOf envelope) "p95_latency_ms" .null) = some rates.latencyBefore
  errorsBefore :
    rateOf? (getOr (baselineOf envelope) "error_rate" .null) = some rates.errorsBefore
  latencyAfter :
    rateOf? (getOr (observedOf envelope) "p95_latency_ms" .null) = some rates.latencyAfter
  errorsAfter :
    rateOf? (getOr (observedOf envelope) "error_rate" .null) = some rates.errorsAfter
  timeoutsAfter :
    rateOf? (getOr (observedOf envelope) "timeout_rate" (.float false 0 0)) =
      some rates.timeoutsAfter

theorem AtLeastAsBad.rates {first second : EventEnvelope} (h : AtLeastAsBad first second) :
    ∃ rates rates', HasRates first rates ∧ HasRates second rates' ∧ Rates.Worse rates rates' := by
  obtain ⟨latency, latency', hlatency, hlatency', hlatencyLe⟩ := h.latencyAfter
  obtain ⟨errors, errors', herrors, herrors', herrorsLe⟩ := h.errorsAfter
  obtain ⟨timeouts, timeouts', htimeouts, htimeouts', htimeoutsLe⟩ := h.timeoutsAfter
  obtain ⟨before', before, hbefore', hbefore, hbeforeLe⟩ := h.latencyBefore
  obtain ⟨failed', failed, hfailed', hfailed, hfailedLe⟩ := h.errorsBefore
  exact ⟨⟨before, failed, latency, errors, timeouts⟩,
    ⟨before', failed', latency', errors', timeouts'⟩,
    ⟨hbefore, hfailed, hlatency, herrors, htimeouts⟩,
    ⟨hbefore', hfailed', hlatency', herrors', htimeouts'⟩,
    ⟨hbeforeLe, hfailedLe, hlatencyLe, herrorsLe, htimeoutsLe⟩⟩

namespace HasRates

variable {envelope : EventEnvelope} {rates : Rates}

theorem reaches_eq {value : Json} {x bound : Binary64} (h : rateOf? value = some x) :
    reaches value bound = .ok (bound.le x) := by
  rw [reaches, compared_of_rate h]
  rfl

section

variable (h : HasRates envelope rates)

include h

variable {worse : Bool}

theorem latencyWorse_iff :
    latencyWorse (.obj (baselineOf envelope)) (.obj (observedOf envelope)) = .ok worse ↔
      Representable (getOr (baselineOf envelope) "p95_latency_ms" .null) ∧
        worse = rates.latencyTest := by
  have hafter := item_obj_ok_iff.mpr (get?_of_rate h.latencyAfter)
  have hbefore := item_obj_ok_iff.mpr (get?_of_rate h.latencyBefore)
  rw [latencyWorse, hafter, ok_bind, hbefore, ok_bind, Except.bind_ok_iff]
  simp only [scaled_ok_iff h.latencyBefore, reaches_eq h.latencyAfter, Except.ok.injEq]
  constructor
  · rintro ⟨bound, ⟨hfits, rfl⟩, rfl⟩
    exact ⟨hfits, rfl⟩
  · rintro ⟨hfits, rfl⟩
    exact ⟨_, ⟨hfits, rfl⟩, rfl⟩

theorem errorWorse_iff :
    errorWorse (.obj (baselineOf envelope)) (.obj (observedOf envelope)) = .ok worse ↔
      ((Binary64.finite 0).lt rates.errorsBefore = true →
        Representable (getOr (baselineOf envelope) "error_rate" .null)) ∧
        worse = rates.errorTest := by
  have hafter := item_obj_ok_iff.mpr (get?_of_rate h.errorsAfter)
  have hbefore := item_obj_ok_iff.mpr (get?_of_rate h.errorsBefore)
  rw [errorWorse, hbefore, ok_bind, compared_of_rate h.errorsBefore, ok_bind, Rates.errorTest]
  by_cases hpos : (Binary64.finite 0).lt rates.errorsBefore = true
  · rw [if_pos hpos, hafter, ok_bind, Except.bind_ok_iff]
    simp only [scaled_ok_iff h.errorsBefore, reaches_eq h.errorsAfter, Except.ok.injEq, hpos,
      Bool.true_and, true_imp_iff]
    constructor
    · rintro ⟨bound, ⟨hfits, rfl⟩, rfl⟩
      exact ⟨hfits, rfl⟩
    · rintro ⟨hfits, rfl⟩
      exact ⟨_, ⟨hfits, rfl⟩, rfl⟩
  · rw [if_neg hpos]
    simp [hpos, eq_comm]

theorem timeoutWorse_eq : timeoutWorse (.obj (observedOf envelope)) = .ok rates.timeoutTest := by
  rw [timeoutWorse, membersOf, ok_bind, reaches_eq h.timeoutsAfter, Rates.timeoutTest]

theorem regressionsOf_iff {found : Regressions} :
    regressionsOf (.obj (baselineOf envelope)) (.obj (observedOf envelope)) = .ok found ↔
      Representable (getOr (baselineOf envelope) "p95_latency_ms" .null) ∧
      ((Binary64.finite 0).lt rates.errorsBefore = true →
        Representable (getOr (baselineOf envelope) "error_rate" .null)) ∧
      found = ⟨rates.latencyTest, rates.errorTest, rates.timeoutTest⟩ := by
  simp only [regressionsOf, Except.bind_ok_iff, h.latencyWorse_iff, h.errorWorse_iff,
    h.timeoutWorse_eq, ok_bind]
  constructor
  · rintro ⟨latency, ⟨hlatency, rfl⟩, error, ⟨herror, rfl⟩, hfound⟩
    exact ⟨hlatency, herror, (Except.ok.inj hfound).symm⟩
  · rintro ⟨hlatency, herror, rfl⟩
    exact ⟨_, ⟨hlatency, rfl⟩, _, ⟨herror, rfl⟩, rfl⟩

end

end HasRates

variable {rates : Rates}

theorem HasRates.items (h : HasRates envelope rates) :
    item (.obj envelope.payload) "request_telemetry" = .ok (.obj (telemetryOf envelope)) ∧
      item (.obj (telemetryOf envelope)) "baseline" = .ok (.obj (baselineOf envelope)) ∧
      item (.obj (telemetryOf envelope)) "observed" = .ok (.obj (observedOf envelope)) := by
  have hbaseline := get?_objectAt h.latencyBefore
  have hobserved := get?_objectAt h.latencyAfter
  have htelemetry : envelope.payload.get? "request_telemetry" =
      some (.obj (telemetryOf envelope)) := by
    cases hget : envelope.payload.get? "request_telemetry" with
    | none =>
      have hempty : telemetryOf envelope = [] := by simp [telemetryOf, objectAt, hget]
      rw [hempty] at hbaseline
      cases hbaseline
    | some value =>
      cases value with
      | obj members => simp [telemetryOf, objectAt, hget, Json.asObj?]
      | null | bool | int | float | str | arr =>
        have hempty : telemetryOf envelope = [] := by
          simp [telemetryOf, objectAt, hget, Json.asObj?]
        rw [hempty] at hbaseline
        cases hbaseline
  exact ⟨item_obj_ok_iff.mpr htelemetry, item_obj_ok_iff.mpr hbaseline,
    item_obj_ok_iff.mpr hobserved⟩

theorem HasRates.test_of_fires (h : HasRates envelope rates)
    {minutes : String → Json → Except PyError Int} (hfires : Fires minutes envelope) :
    rates.latencyTest = true ∨ rates.errorTest = true ∨ rates.timeoutTest = true := by
  obtain ⟨htelemetry, hbaseline, hobserved⟩ := h.items
  obtain ⟨trigger, hdetected⟩ := hfires
  simp only [detectFeatureFlagTrigger, Except.bind_ok_iff] at hdetected
  obtain ⟨signal, hsignal, _, -, found, hfound, _, -, _, -, hfire⟩ := hdetected
  simp only [flagSignal, htelemetry, hbaseline, hobserved, ok_bind, Except.bind_ok_iff] at hsignal
  obtain ⟨_, -, _, -, _, -, _, -, hsignal⟩ := hsignal
  obtain rfl := Except.ok.inj hsignal
  obtain ⟨-, -, rfl⟩ := h.regressionsOf_iff.mp hfound
  split at hfire
  · next hopen =>
    simp only [Bool.and_eq_true, Regressions.any, Bool.or_eq_true] at hopen
    exact or_assoc.mp hopen.2
  · cases hfire

namespace AtLeastAsBad

variable {first second : EventEnvelope} {minutes : String → Json → Except PyError Int}

section

variable (h : AtLeastAsBad first second)

include h

theorem item_payload {key : String}
    (hkey : key ≠ "request_telemetry") :
    item (.obj second.payload) key = item (.obj first.payload) key := by
  simp only [item, h.payload key hkey]

theorem flagSignal_eq {signal : FlagSignal}
    (hsignal : flagSignal minutes first = .ok signal) :
    signal.telemetry = .obj (telemetryOf first) ∧ signal.baseline = .obj (baselineOf first) ∧
      signal.observed = .obj (observedOf first) ∧
      flagSignal minutes second = .ok { signal with
        telemetry := .obj (telemetryOf second)
        baseline := .obj (baselineOf second)
        observed := .obj (observedOf second) } := by
  obtain ⟨rates, rates', hrates, hrates', -⟩ := h.rates
  obtain ⟨htelemetry, hbaseline, hobserved⟩ := hrates.items
  obtain ⟨htelemetry', hbaseline', hobserved'⟩ := hrates'.items
  unfold flagSignal at hsignal ⊢
  simp only [htelemetry, hbaseline, hobserved, ok_bind, Except.bind_ok_iff] at hsignal
  obtain ⟨flag, hflag, context, hcontext, changed, hchanged, count, hcount, hsignal⟩ := hsignal
  obtain rfl := Except.ok.inj hsignal
  refine ⟨rfl, rfl, rfl, ?_⟩
  simp only [h.item_payload (by decide : "feature_flag" ≠ "request_telemetry"),
    h.item_payload (by decide : "related_context" ≠ "request_telemetry"), hflag, htelemetry',
    hbaseline', hobserved', hcontext, hchanged, h.emittedAt, hcount, ok_bind]
  rfl

theorem sampleSizeOk_eq :
    sampleSizeOk (.obj (telemetryOf second)) = sampleSizeOk (.obj (telemetryOf first)) := by
  simp only [sampleSizeOk, item, h.sampleSize]

theorem persistent_eq :
    persistent (.obj (telemetryOf second)) = persistent (.obj (telemetryOf first)) := by
  simp only [persistent, membersOf, ok_bind, getOr, h.persistentWindows]

end

end AtLeastAsBad

theorem validateNode_of_agree {schema : Schema} {keys : List String} {members' : Dict}
    (h : validateNode (.obj members) schema path = .ok ())
    (hobject : schema.types.contains .object = true)
    (hcheck : checkNode (.obj members') schema path = .ok ()) (hclosed : schema.closed = false)
    (hagree : Dict.AgreeOff keys members members') (hdistinct : members'.Distinct)
    (hfree : ∀ key ∈ keys, key ∉ schema.required ∧ schema.properties.lookup key = none) :
    validateNode (.obj members') schema path = .ok () := by
  apply validateNode_object_ok hcheck hclosed
  · intro field hfield
    have hkey : field ∉ keys := fun hmem => (hfree field hmem).1 hfield
    rw [← hagree field hkey]
    exact validateNode_required h hobject hfield
  · intro field value member hmem hmember
    have hkey : field ∉ keys := fun hin => by
      rw [(hfree field hin).2] at hmember
      cases hmember
    have hfound := Dict.get?_of_mem hdistinct hmem
    rw [← hagree field hkey] at hfound
    exact validateNode_member h hobject hfound hmember

theorem contextBase_agree (release : Json) (minutes : Int) (signals signals' : Json)
    (context : Dict) :
    Dict.AgreeOff ["trigger_signals"] (contextBase release minutes signals context)
      (contextBase release minutes signals' context) := by
  intro key hkey
  have hne : key ≠ "trigger_signals" := by simpa using hkey
  simp only [contextBase, Dict.get?_cons, hne, if_false]

theorem contextBase_valid {release : Json} {minutes : Int} {signals : Json} {context : Dict}
    (h : validateNode (.obj ((contextBase release minutes signals context).update context))
      triggerContextSchema path = .ok ()) (signals' : Json) :
    validateNode (.obj ((contextBase release minutes signals' context).update context))
      triggerContextSchema path = .ok () := by
  have hdistinct : (contextBase release minutes signals' context).Distinct := by
    show List.Nodup ["release_id", "active_incidents", "similar_prior_cases",
      "rollbacks_last_24h", "regressions_last_7d", "minutes_since_flag_change",
      "trigger_signals", "signal_quality"]
    decide
  refine validateNode_of_agree h rfl rfl rfl
    ((contextBase_agree release minutes signals signals' context).update context)
    (hdistinct.update context) ?_
  intro key hkey
  obtain rfl := List.mem_singleton.mp hkey
  decide

theorem number_valid {value : Json} (h : rateOf? value = some x) (path : String) :
    validateNode value { types := [.number, .null] } path = .ok () := by
  have htype : matchesType value .number = true := by
    unfold rateOf? at h
    split at h
    · assumption
    · cases h
  exact validateNode_types path (by simp [htype]) rfl rfl

theorem optional_valid {default : Json} (h : rateOf? (getOr members key default) = some x)
    (path : String) :
    validateNode (getOr members key .null) { types := [.number, .null] } path = .ok () := by
  unfold getOr at h ⊢
  cases hget : members.get? key with
  | none => rfl
  | some value =>
    rw [hget, Option.getD_some] at h
    exact number_valid h path

def metricsOf (envelope : EventEnvelope) (sampleSize : Json) : Dict :=
  [("baseline_p95_latency_ms", getOr (baselineOf envelope) "p95_latency_ms" .null),
   ("observed_p95_latency_ms", getOr (observedOf envelope) "p95_latency_ms" .null),
   ("baseline_error_rate", getOr (baselineOf envelope) "error_rate" .null),
   ("observed_error_rate", getOr (observedOf envelope) "error_rate" .null),
   ("baseline_timeout_rate", getOr (baselineOf envelope) "timeout_rate" .null),
   ("observed_timeout_rate", getOr (observedOf envelope) "timeout_rate" .null),
   ("sample_size", sampleSize)]

theorem HasRates.flagMetrics_iff (h : HasRates envelope rates) {metrics : Dict} :
    flagMetrics (.obj (telemetryOf envelope)) (.obj (baselineOf envelope))
        (.obj (observedOf envelope)) = .ok metrics ↔
      ∃ size, item (.obj (telemetryOf envelope)) "sample_size" = .ok size ∧
        metrics = metricsOf envelope size := by
  simp only [flagMetrics, item_obj_ok_iff.mpr (get?_of_rate h.latencyBefore),
    item_obj_ok_iff.mpr (get?_of_rate h.latencyAfter),
    item_obj_ok_iff.mpr (get?_of_rate h.errorsBefore),
    item_obj_ok_iff.mpr (get?_of_rate h.errorsAfter), membersOf, ok_bind, Except.bind_ok_iff]
  constructor
  · rintro ⟨size, hsize, hmetrics⟩
    exact ⟨size, hsize, (Except.ok.inj hmetrics).symm⟩
  · rintro ⟨size, hsize, rfl⟩
    exact ⟨size, hsize, rfl⟩

namespace AtLeastAsBad

variable {first second : EventEnvelope} {size : Json}

theorem flagMetrics_eq (h : AtLeastAsBad first second)
    (hsize : item (.obj (telemetryOf first)) "sample_size" = .ok size) :
    flagMetrics (.obj (telemetryOf second)) (.obj (baselineOf second))
      (.obj (observedOf second)) = .ok (metricsOf second size) := by
  obtain ⟨_, rates', -, hrates', -⟩ := h.rates
  refine hrates'.flagMetrics_iff.mpr ⟨size, ?_, rfl⟩
  rw [← hsize]
  simp only [item, h.sampleSize]

theorem metrics_valid (h : AtLeastAsBad first second) {path : String}
    (hvalid : validateNode (.obj (metricsOf first size)) triggerMetricsSchema path = .ok ()) :
    validateNode (.obj (metricsOf second size)) triggerMetricsSchema path = .ok () := by
  obtain ⟨_, rates', -, hrates', -⟩ := h.rates
  have hbefore (path : String) : validateNode (getOr (baselineOf second) "timeout_rate" .null)
      { types := [.number, .null] } path = .ok () := by
    rcases h.timeoutsBefore with hnull | ⟨x, y, hx, -, -⟩
    · rw [hnull]
      rfl
    · exact number_valid hx path
  have hkeys : (metricsOf second size).map Prod.fst = (metricsOf first size).map Prod.fst := rfl
  refine validateNode_of_keys hvalid rfl rfl hkeys ?_
  intro field value member hmem hmember
  simp only [metricsOf, List.mem_cons, Prod.mk.injEq, List.not_mem_nil, or_false] at hmem
  rcases hmem with ⟨rfl, rfl⟩ | ⟨rfl, rfl⟩ | ⟨rfl, rfl⟩ | ⟨rfl, rfl⟩ | ⟨rfl, rfl⟩ | ⟨rfl, rfl⟩ |
    ⟨rfl, rfl⟩
  · obtain rfl := Option.some.inj hmember
    exact number_valid hrates'.latencyBefore _
  · obtain rfl := Option.some.inj hmember
    exact number_valid hrates'.latencyAfter _
  · obtain rfl := Option.some.inj hmember
    exact number_valid hrates'.errorsBefore _
  · obtain rfl := Option.some.inj hmember
    exact number_valid hrates'.errorsAfter _
  · obtain rfl := Option.some.inj hmember
    exact hbefore _
  · obtain rfl := Option.some.inj hmember
    exact optional_valid hrates'.timeoutsAfter _
  · exact validateNode_mem hvalid rfl (by simp [metricsOf]) hmember

theorem triggerMembers_valid {front metrics metrics' context context' : Dict}
    (hmetrics : front.get? "metrics" = none) (hcontext : front.get? "related_context" = none)
    (h : validatePayload triggerSchema (.obj (triggerMembers front metrics context)) = .ok ())
    (hmetrics' : validateNode (.obj metrics) triggerMetricsSchema "$.metrics" = .ok () →
      validateNode (.obj metrics') triggerMetricsSchema "$.metrics" = .ok ())
    (hcontext' : validateNode (.obj context) triggerContextSchema "$.related_context" = .ok () →
      validateNode (.obj context') triggerContextSchema "$.related_context" = .ok ()) :
    validatePayload triggerSchema (.obj (triggerMembers front metrics' context')) = .ok () := by
  have hkeys : (triggerMembers front metrics' context').map Prod.fst =
      (triggerMembers front metrics context).map Prod.fst := by simp [triggerMembers]
  have hfound (key : String) : (triggerMembers front metrics context).get? key =
      (front.get? key).or (Dict.get? [("metrics", .obj metrics),
        ("related_context", .obj context)] key) := List.lookup_append
  refine validateNode_of_keys h rfl rfl hkeys ?_
  intro field value member hmem hmember
  rcases List.mem_append.mp hmem with hsame | hlast
  · exact validateNode_mem h rfl (List.mem_append_left _ hsame) hmember
  · simp only [List.mem_cons, Prod.mk.injEq, List.not_mem_nil, or_false] at hlast
    rcases hlast with ⟨rfl, rfl⟩ | ⟨rfl, rfl⟩
    · obtain rfl := Option.some.inj hmember
      exact hmetrics' (validateNode_member h rfl (by rw [hfound, hmetrics]; rfl) rfl)
    · obtain rfl := Option.some.inj hmember
      exact hcontext' (validateNode_member h rfl (by rw [hfound, hcontext]; rfl) rfl)

theorem fireFlag_ok (h : AtLeastAsBad first second) {signal : FlagSignal}
    (htelemetry : signal.telemetry = .obj (telemetryOf first))
    (hbaseline : signal.baseline = .obj (baselineOf first))
    (hobserved : signal.observed = .obj (observedOf first)) {found : Regressions} {trigger : Dict}
    (hfire : fireFlag first signal found = .ok trigger) (found' : Regressions) :
    ∃ trigger', fireFlag second { signal with
        telemetry := .obj (telemetryOf second)
        baseline := .obj (baselineOf second)
        observed := .obj (observedOf second) } found' = .ok trigger' := by
  simp only [fireFlag, Except.bind_ok_iff, htelemetry, hbaseline, hobserved] at hfire
  obtain ⟨given, hgiven, context, hcontext, metrics, hmetrics, raw, hraw, _, hvalid, -⟩ := hfire
  simp only [flagContext, Except.bind_ok_iff] at hcontext
  obtain ⟨deployment, hdeployment, release, hrelease, hcontext⟩ := hcontext
  obtain rfl := Except.ok.inj hcontext
  simp only [flagTrigger, Except.bind_ok_iff] at hraw
  obtain ⟨environment, henvironment, service, hservice, endpoint, hendpoint, key, hkey, rollout,
    hrollout, window, hwindow, segment, hsegment, hraw⟩ := hraw
  obtain rfl := Except.ok.inj hraw
  have hother {key : String} (hkey : key ≠ "request_telemetry") :=
    h.item_payload hkey
  obtain ⟨size, hsize, rfl⟩ : ∃ size, item (.obj (telemetryOf first)) "sample_size" = .ok size ∧
      metrics = metricsOf first size := by
    obtain ⟨rates, -, hrates, -⟩ := h.rates
    exact hrates.flagMetrics_iff.mp hmetrics
  have hnew := triggerMembers_valid rfl rfl hvalid h.metrics_valid
    fun hold => contextBase_valid hold found'.signals
  simp only [fireFlag, flagContext, flagTrigger, hgiven, h.flagMetrics_eq hsize,
    hother (by decide : "deployment" ≠ "request_telemetry"), hdeployment, hrelease,
    hother (by decide : "environment" ≠ "request_telemetry"), henvironment,
    hother (by decide : "service" ≠ "request_telemetry"), hservice,
    hother (by decide : "endpoint" ≠ "request_telemetry"), hendpoint, hkey, hrollout,
    hother (by decide : "comparison_window" ≠ "request_telemetry"), hwindow,
    hother (by decide : "segment" ≠ "request_telemetry"), hsegment, ok_bind, pure_bind,
    h.objectId, h.emittedAt, hnew]
  exact ⟨_, rfl⟩

variable {minutes : String → Json → Except PyError Int}

/-- **From one trigger to the other.**  Where the first envelope becomes a trigger, the
second does exactly if one of its three tests fires. -/
theorem fires_iff (h : AtLeastAsBad first second) (hfires : Fires minutes first) :
    Fires minutes second ↔
      ∃ found, regressionsOf (.obj (baselineOf second)) (.obj (observedOf second)) = .ok found ∧
        found.any = true := by
  obtain ⟨trigger, hdetected⟩ := hfires
  simp only [detectFeatureFlagTrigger, Except.bind_ok_iff] at hdetected
  obtain ⟨signal, hsignal, large, hlarge, found, -, lasting, hlasting, held, hheld, hfire⟩ :=
    hdetected
  obtain ⟨htelemetry, hbaseline, hobserved, hsecond⟩ := h.flagSignal_eq hsignal
  rw [htelemetry] at hlarge hlasting
  split at hfire
  · next hopen =>
    obtain ⟨fired, hfired, -⟩ := bind_ok hfire
    simp only [Bool.and_eq_true] at hopen
    obtain ⟨⟨⟨⟨hrecent, rfl⟩, rfl⟩, hfree⟩, -⟩ := hopen
    have hdetect (found' : Except PyError Regressions)
        (hfound : regressionsOf (.obj (baselineOf second)) (.obj (observedOf second)) =
          found') :
        detectFeatureFlagTrigger minutes second = do
          let found' ← found'
          if found'.any then do
            let trigger ← fireFlag second { signal with
              telemetry := .obj (telemetryOf second)
              baseline := .obj (baselineOf second)
              observed := .obj (observedOf second) } found'
            return some trigger
          else return none := by
      have hrecent' : FlagSignal.recent { signal with
          telemetry := .obj (telemetryOf second)
          baseline := .obj (baselineOf second)
          observed := .obj (observedOf second) } = true := hrecent
      rw [detectFeatureFlagTrigger, hsecond, ok_bind, h.sampleSizeOk_eq, hlarge, ok_bind, hfound]
      simp only [h.persistent_eq, hlasting, hheld, ok_bind, hrecent', hfree, Bool.true_and]
    constructor
    · rintro ⟨trigger', htrigger'⟩
      cases hfound : regressionsOf (.obj (baselineOf second)) (.obj (observedOf second)) with
      | error e =>
        rw [hdetect _ hfound] at htrigger'
        cases htrigger'
      | ok found' =>
        refine ⟨found', rfl, ?_⟩
        by_contra hnone
        rw [hdetect _ hfound, ok_bind, if_neg hnone] at htrigger'
        cases htrigger'
    · rintro ⟨found', hfound, hany⟩
      obtain ⟨trigger', htrigger'⟩ :=
        h.fireFlag_ok htelemetry hbaseline hobserved hfired found'
      exact ⟨trigger', by rw [hdetect _ hfound, ok_bind, if_pos hany, htrigger']; rfl⟩
  · cases hfire

end AtLeastAsBad

/-- **When detection is monotone**: exactly where the worse envelope's baselines are in order, or
its latency or its timeouts regress by themselves. -/
theorem flag_detection_monotone_iff {minutes : String → Json → Except PyError Int}
    {first second : EventEnvelope} (hfires : Fires minutes first)
    (h : AtLeastAsBad first second) :
    Fires minutes second ↔
      (Representable (getOr (baselineOf second) "p95_latency_ms" .null) ∧
        (ErrorsBefore second → Representable (getOr (baselineOf second) "error_rate" .null))) ∧
      (ErrorsBefore second ∨
        latencyWorse (.obj (baselineOf second)) (.obj (observedOf second)) = .ok true ∨
        timeoutWorse (.obj (observedOf second)) = .ok true) := by
  obtain ⟨rates, rates', hrates, hrates', hworse⟩ := h.rates
  have herrors : ErrorsBefore second ↔ (Binary64.finite 0).lt rates'.errorsBefore = true := by
    unfold ErrorsBefore
    simp [hrates'.errorsBefore]
  have hown := hrates.test_of_fires hfires
  rw [h.fires_iff hfires, herrors, hrates'.latencyWorse_iff, hrates'.timeoutWorse_eq]
  constructor
  · rintro ⟨found, hfound, hany⟩
    obtain ⟨hlatency, herror, rfl⟩ := hrates'.regressionsOf_iff.mp hfound
    refine ⟨⟨hlatency, herror⟩, ?_⟩
    simp only [Regressions.any, Bool.or_eq_true] at hany
    rcases hany with (htest | htest) | htest
    · exact .inr (.inl ⟨hlatency, htest.symm⟩)
    · exact .inl (Bool.and_eq_true_iff.mp htest).1
    · exact .inr (.inr (by rw [htest]))
  · rintro ⟨⟨hlatency, herror⟩, hcase⟩
    refine ⟨_, hrates'.regressionsOf_iff.mpr ⟨hlatency, herror, rfl⟩, ?_⟩
    simp only [Regressions.any, Bool.or_eq_true]
    rcases hcase with hpos | ⟨-, htest⟩ | htest
    · rcases hown with hfirst | hfirst | hfirst
      · exact .inl (.inl (hworse.latencyTest hfirst))
      · exact .inl (.inr (hworse.errorTest hfirst hpos))
      · exact .inr (hworse.timeoutTest hfirst)
    · exact .inl (.inl htest.symm)
    · exact .inr (Except.ok.inj htest)

def fiveMinutes : String → Json → Except PyError Int := fun _ _ => .ok 5

def failingFlag (errorsBefore : Json) : EventEnvelope where
  objectId := "sig-1"
  emittedAt := "2026-01-05T10:05:00Z"
  payload :=
    [("request_telemetry", .obj [("sample_size", .int 1000), ("persistent_windows", .int 3),
      ("baseline", .obj [("p95_latency_ms", .int 200), ("error_rate", errorsBefore)]),
      ("observed", .obj [("p95_latency_ms", .int 200), ("error_rate", .float false 2 (-2))])]),
     ("feature_flag", .obj [("flag_key", .str "semantic_search"),
      ("current_rollout_pct", .int 50), ("changed_at", .str "2026-01-05T10:00:00Z")]),
     ("deployment", .obj [("release_id", .str "r-7")]), ("environment", .str "production"),
     ("service", .str "search"), ("endpoint", .str "/search"),
     ("comparison_window", .obj [("baseline", .str "09:30/10:00"),
      ("observed", .str "10:00/10:05")]),
     ("segment", .obj [("customer_tier", .str "standard")]), ("related_context", .obj [])]

theorem failingFlag_atLeastAsBad {before before' : Json} (h : RateLe before' before) :
    AtLeastAsBad (failingFlag before) (failingFlag before') := by
  have hlatency : RateLe (.int 200) (.int 200) := by decide +kernel
  have herrors : RateLe (.float false 2 (-2)) (.float false 2 (-2)) := by decide +kernel
  have htimeouts : RateLe (.float false 0 0) (.float false 0 0) := by decide +kernel
  refine ⟨rfl, rfl, ?_, rfl, rfl, hlatency, herrors, htimeouts, hlatency, h, .inl rfl⟩
  intro key hkey
  simp only [failingFlag, Dict.get?_cons, hkey, if_false]

theorem flag_detection_monotone_sample :
    Fires fiveMinutes (failingFlag (.float false 1 (-2))) ∧
      Fires fiveMinutes (failingFlag (.float false 5 (-3))) := by
  have hfirst : Fires fiveMinutes (failingFlag (.float false 1 (-2))) := by decide +kernel
  have hbad := failingFlag_atLeastAsBad
    (by decide +kernel : RateLe (.float false 5 (-3)) (.float false 1 (-2)))
  have hbefore : ErrorsBefore (failingFlag (.float false 5 (-3))) :=
    ⟨doubleOf false 5 (-3), rfl, by decide +kernel⟩
  refine ⟨hfirst, (flag_detection_monotone_iff hfirst hbad).mpr ⟨⟨?_, fun _ => ?_⟩, .inl hbefore⟩⟩
  · intro n hn
    obtain rfl : (200 : Int) = n := Json.int.inj hn
    exact ⟨200, by decide +kernel⟩
  · intro n hn
    cases hn

/-- **No failures before.**  With a baseline of zero the same failures are worse, and there is
no trigger. -/
theorem zero_baseline_is_silent :
    Fires fiveMinutes (failingFlag (.float false 1 (-2))) ∧
      AtLeastAsBad (failingFlag (.float false 1 (-2))) (failingFlag (.int 0)) ∧
      ¬ Fires fiveMinutes (failingFlag (.int 0)) :=
  ⟨by decide +kernel, failingFlag_atLeastAsBad (by decide +kernel), by decide +kernel⟩

end OrbitalMesh.Signals
