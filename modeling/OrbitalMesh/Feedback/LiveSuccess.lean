import OrbitalMesh.Feedback.Record

/-!
# Success that was measured live

The signal that asked for an action must not be able to claim that it succeeded.  The
judgement reads windows that are merged from the signal and from the observers, and it
knows a live window by a text in it, which the signal may carry as well.
-/

namespace OrbitalMesh.Feedback

open OrbitalMesh.Decision

section

variable {service : FeedbackService} {reading : TextReading} {now : String}
  {trigger : FeedbackTrigger} {decision : FeedbackDecision} {execution : FeedbackExecution}
  {signal : LoadedDict} {window : String}

def latencyReading (service : FeedbackService) (trigger : FeedbackTrigger) (window : String) :
    Option Binary64 :=
  service.observer.bind fun observer => (observer.latency trigger.service window).reading

def errorReading (service : FeedbackService) (trigger : FeedbackTrigger) (window : String) :
    Option Binary64 :=
  service.observer.bind fun observer => (observer.errorRate trigger.service window).reading

theorem lookup_cons_ite (key other : String) (value : Loaded) (rest : LoadedDict) :
    List.lookup other ((key, value) :: rest) =
      if other = key then some value else List.lookup other rest := by
  by_cases h : other = key
  · subst h
    simp
  · have hne : (other == key) = false := beq_false_of_ne h
    simp [List.lookup_cons, hne, h]

theorem lookup_measured (key other : String) (answer : QueryAnswer) :
    (measured key answer).lookup other =
      if other = key then answer.reading.map Loaded.float else none := by
  unfold measured
  cases answer.reading with
  | none => simp
  | some x => simp [lookup_cons_ite]

theorem lookup_latency :
    (liveWindow service.observer now trigger.service window).lookup "p95_latency_ms" =
      (latencyReading service trigger window).map .float := by
  unfold liveWindow latencyReading
  cases service.observer with
  | none => rfl
  | some observer =>
    simp [PrometheusObserver.observe, List.lookup_append, lookup_measured, lookup_cons_ite]

theorem lookup_errorRate :
    (liveWindow service.observer now trigger.service window).lookup "error_rate" =
      (errorReading service trigger window).map .float := by
  unfold liveWindow errorReading
  cases service.observer with
  | none => rfl
  | some observer =>
    simp [PrometheusObserver.observe, List.lookup_append, lookup_measured, lookup_cons_ite]

theorem lookup_unobserved {key : String}
    (hkey : key ∉ ["p95_latency_ms", "error_rate", "source", "measured_at"]) :
    (liveWindow service.observer now trigger.service window).lookup key = none := by
  simp only [List.mem_cons, List.not_mem_nil, or_false, not_or] at hkey
  unfold liveWindow
  cases service.observer with
  | none => rfl
  | some observer =>
    simp [PrometheusObserver.observe, List.lookup_append, lookup_measured, lookup_cons_ite, hkey]

/-- A value of a merged window: what is observed, or else what the signal says. -/
theorem valueAt_append (live stub : LoadedDict) (key : String) (default : Loaded) :
    valueAt (live ++ stub) key default = (live.lookup key).getD (valueAt stub key default) := by
  unfold valueAt
  rw [List.lookup_append]
  cases live.lookup key <;> simp

theorem liveSource_of_observer (h : service.observer.isSome = true) (stub : LoadedDict) :
    liveSource (liveWindow service.observer now trigger.service window ++ stub) = true := by
  obtain ⟨observer, hobserver⟩ := Option.isSome_iff_exists.mp h
  have hsource : (liveWindow service.observer now trigger.service window ++ stub).lookup "source" =
      some (.str "prometheus") := by
    rw [hobserver]
    simp [liveWindow, PrometheusObserver.observe, List.lookup_append, lookup_measured]
  unfold liveSource textAt
  rw [hsource]
  rfl

variable {observations : Observations} {value : Loaded} {bound answer : Option Binary64}
  {stub : LoadedDict} {improved10 successful30 : Bool}

theorem augmentObservations_ok
    (h : augmentObservations signal service.observer now trigger.service = .ok observations) :
    (∃ stub, observations.tenMinutes =
      liveWindow service.observer now trigger.service "10m" ++ stub) ∧
    ∃ stub, dictOf (valueAt signal "30m" (.obj [])) = .ok stub ∧ observations.thirtyMinutes =
      liveWindow service.observer now trigger.service "30m" ++ stub := by
  obtain ⟨ten, hten, h⟩ := bind_ok h
  obtain ⟨thirty, hthirty, h⟩ := bind_ok h
  obtain ⟨stub, hstub, hten⟩ := bind_ok hten
  obtain ⟨stub', hstub', hthirty⟩ := bind_ok hthirty
  cases hten
  cases hthirty
  split at h
  · obtain ⟨day, -, h⟩ := bind_ok h
    cases h
    exact ⟨⟨stub, rfl⟩, stub', hstub', rfl⟩
  · cases h
    exact ⟨⟨stub, rfl⟩, stub', hstub', rfl⟩

def Answered (service : FeedbackService) (trigger : FeedbackTrigger) : Prop :=
  ∀ window ∈ ["10m", "30m"], (latencyReading service trigger window).isSome = true ∧
    (errorReading service trigger window).isSome = true

/-- The measurements of the judgement were obtained live; an alert is judged on none. -/
def MeasuredLive (service : FeedbackService) (trigger : FeedbackTrigger)
    (decision : FeedbackDecision) (execution : FeedbackExecution) : Prop :=
  if trigger.triggerType = "kubernetes_deployment_unhealthy" then
    (liveDeployment service.kubernetesObserver trigger decision execution).isSome = true
  else if trigger.triggerType = "webhook_alert_firing" then True
  else Answered service trigger

/-- The signal says nothing that makes the outcome less favourable. -/
def Favourable (signal : LoadedDict) : Prop :=
  ∀ window, dictOf (valueAt signal "30m" (.obj [])) = .ok window →
    isZero (valueAt window "new_severe_incidents" (.int 0)) = true ∧
      (valueAt window "business_guardrail_breached" (.bool false)).truthy = false

/-- **The signal cannot claim success**: only what was measured live succeeds. -/
structure SuccessIsLive (service : FeedbackService) (reading : TextReading) (now : String)
    (trigger : FeedbackTrigger) (decision : FeedbackDecision) (execution : FeedbackExecution) :
    Prop where
  measured : ∀ signal feedback,
    record service reading now trigger decision execution signal = .ok feedback →
      feedback.outcome = "successful" → MeasuredLive service trigger decision execution
  twoRuns : ∀ signal other feedback feedback',
    record service reading now trigger decision execution signal = .ok feedback →
      record service reading now trigger decision execution other = .ok feedback' →
        feedback.outcome = "successful" → Favourable other → feedback'.outcome = "successful"

/-- The law holds where nothing is ever successful. -/
theorem SuccessIsLive.of_never
    (h : ∀ signal feedback,
      record service reading now trigger decision execution signal = .ok feedback →
        feedback.outcome ≠ "successful") :
    SuccessIsLive service reading now trigger decision execution where
  measured signal feedback hfeedback hsuccess := absurd hsuccess (h signal feedback hfeedback)
  twoRuns signal _ feedback _ hfeedback _ hsuccess _ :=
    absurd hsuccess (h signal feedback hfeedback)

/-- Below the metric of the trigger there is a value that the observer leaves open. -/
def CanImprove (answer : Option Binary64) (observed : Option Number) : Prop :=
  ∃ bound, observed.map Number.exact = some bound ∧
    ∃ x, (answer = none ∨ answer = some x) ∧ x.lt bound = true

def CanRecover (answer : Option Binary64) (baseline : Option Number) (factor : Binary64) : Prop :=
  ∃ bound, safeMul baseline factor = .ok bound ∧
    ((answer = none ∧ bound = none) ∨
      ∃ y, bound = some y ∧ ∃ x, (answer = none ∨ answer = some x) ∧ x.le y = true)

structure InReach (service : FeedbackService) (trigger : FeedbackTrigger)
    (execution : FeedbackExecution) : Prop where
  succeeded : execution.status = "succeeded"
  latency10 : CanImprove (latencyReading service trigger "10m") trigger.observedLatency
  errorRate10 : CanImprove (errorReading service trigger "10m") trigger.observedErrorRate
  latency30 : CanRecover (latencyReading service trigger "30m") trigger.baselineLatency 1.10
  errorRate30 : CanRecover (errorReading service trigger "30m") trigger.baselineErrorRate 1.20
  regressions :
    (valueAt trigger.relatedContext "regressions_last_7d" (.int 0)).number?.isSome = true

def Verified (service : FeedbackService) (trigger : FeedbackTrigger)
    (decision : FeedbackDecision) (execution : FeedbackExecution) : Prop :=
  if trigger.triggerType = "kubernetes_deployment_unhealthy" then
    (liveDeployment service.kubernetesObserver trigger decision execution).isSome = true ∨
      execution.status ≠ "succeeded"
  else if trigger.triggerType = "webhook_alert_firing" then
    service.observer.isSome = true ∨ execution.status ≠ "succeeded" ∨
      (valueAt execution.externalRefs "incident_id" .null).truthy = false
  else Answered service trigger ∨ ¬ InReach service trigger execution

theorem andThen_true {a b : Except PyError Bool} :
    andThen a b = .ok true ↔ a = .ok true ∧ b = .ok true := by
  constructor
  · intro h
    obtain ⟨x, ha, h⟩ := bind_ok h
    cases x with
    | false => cases h
    | true => exact ⟨ha, h⟩
  · rintro ⟨rfl, rfl⟩
    rfl

theorem compareWith_true {compare : Binary64 → Binary64 → Bool} :
    compareWith compare value bound = .ok true ↔
      ∃ x y, value.number? = some x ∧ bound = some y ∧ compare x y = true := by
  cases bound with
  | none => cases value <;> simp [compareWith]
  | some y =>
    cases value <;> simp [compareWith, Loaded.number?, typeError]

theorem safeLe_true :
    safeLe value bound = .ok true ↔ (value = .null ∧ bound = none) ∨
      ∃ x y, value.number? = some x ∧ bound = some y ∧ x.le y = true := by
  rw [← compareWith_true]
  cases bound with
  | none => cases value <;> simp [safeLe, compareWith]
  | some y => simp [safeLe]

theorem canImprove_iff {observed : Option Number} :
    CanImprove answer observed ↔
      ∃ value, safeLt ((answer.map Loaded.float).getD value) observed = .ok true := by
  unfold CanImprove safeLt
  simp only [compareWith_true]
  constructor
  · rintro ⟨bound, hbound, x, rfl | rfl, hlt⟩
    · exact ⟨.float x, x, bound, rfl, hbound, hlt⟩
    · exact ⟨.null, x, bound, rfl, hbound, hlt⟩
  · rintro ⟨value, x, bound, hx, hbound, hlt⟩
    refine ⟨bound, hbound, x, ?_, hlt⟩
    cases answer with
    | none => exact .inl rfl
    | some y => exact .inr hx

theorem canRecover_iff {baseline : Option Number} {factor : Binary64} :
    CanRecover answer baseline factor ↔
      ∃ value, (safeMul baseline factor >>=
        safeLe ((answer.map Loaded.float).getD value)) = .ok true := by
  simp only [Except.bind_ok_iff, safeLe_true]
  constructor
  · rintro ⟨bound, hmul, ⟨rfl, rfl⟩ | ⟨y, rfl, x, rfl | rfl, hle⟩⟩
    · exact ⟨.null, none, hmul, .inl ⟨rfl, rfl⟩⟩
    · exact ⟨.float x, some y, hmul, .inr ⟨x, y, rfl, rfl, hle⟩⟩
    · exact ⟨.null, some y, hmul, .inr ⟨x, y, rfl, rfl, hle⟩⟩
  · rintro ⟨value, bound, hmul, ⟨hnull, rfl⟩ | ⟨x, y, hx, rfl, hle⟩⟩
    · cases answer with
      | none => exact ⟨none, hmul, .inl ⟨rfl, rfl⟩⟩
      | some z => cases hnull
    · refine ⟨some y, hmul, .inr ⟨y, rfl, x, ?_, hle⟩⟩
      cases answer with
      | none => exact .inl rfl
      | some z => exact .inr hx

theorem improved_iff :
    improved trigger (liveWindow service.observer now trigger.service "10m" ++ stub) = .ok true ↔
      safeLt (((latencyReading service trigger "10m").map Loaded.float).getD
        (valueAt stub "p95_latency_ms" (metricValue trigger.observedLatency)))
        trigger.observedLatency = .ok true ∧
      safeLt (((errorReading service trigger "10m").map Loaded.float).getD
        (valueAt stub "error_rate" (metricValue trigger.observedErrorRate)))
        trigger.observedErrorRate = .ok true := by
  rw [improved, andThen_true, valueAt_append, valueAt_append, lookup_latency, lookup_errorRate]

theorem recovered_iff (hstatus : execution.status = "succeeded") :
    recovered trigger execution
        (liveWindow service.observer now trigger.service "30m" ++ stub) = .ok true ↔
      (safeMul trigger.baselineLatency 1.10 >>=
        safeLe (((latencyReading service trigger "30m").map Loaded.float).getD
          (valueAt stub "p95_latency_ms" (metricValue trigger.observedLatency)))) = .ok true ∧
      (safeMul trigger.baselineErrorRate 1.20 >>=
        safeLe (((errorReading service trigger "30m").map Loaded.float).getD
          (valueAt stub "error_rate" (metricValue trigger.observedErrorRate)))) = .ok true ∧
      isZero (valueAt stub "new_severe_incidents" (.int 0)) = true := by
  rw [recovered, if_neg (by simp [hstatus]), andThen_true, andThen_true, valueAt_append,
    valueAt_append, valueAt_append, lookup_latency, lookup_errorRate,
    lookup_unobserved (by decide)]
  simp

/-- What a successful judgement has found. -/
structure Judged (trigger : FeedbackTrigger) (execution : FeedbackExecution)
    (improved10 successful30 : Bool) : Prop where
  succeeded : execution.status = "succeeded"
  improved : improved10 = true
  recovered : successful30 = true
  regressions :
    (valueAt trigger.relatedContext "regressions_last_7d" (.int 0)).number?.isSome = true

theorem judge_successful {window : LoadedDict} {followUp : String}
    (h : judge trigger decision execution window improved10 successful30 =
      .ok ("successful", followUp)) : Judged trigger execution improved10 successful30 := by
  unfold judge at h
  split at h
  · simp at h
  next hstatus =>
    split at h
    · simp at h
    next himproved =>
      split at h
      · simp at h
      · split at h
        · simp at h
        next hrecovered =>
          obtain ⟨many, hmany, -⟩ := bind_ok h
          refine ⟨not_not.mp hstatus, by simpa using himproved, by simpa using hrecovered, ?_⟩
          unfold manyRegressions at hmany
          dsimp only at hmany
          split at hmany
          next x hx => simp [hx]
          · cases hmany

theorem judge_of_judged {window : LoadedDict} (h : Judged trigger execution improved10 successful30)
    (hguardrail : (valueAt window "business_guardrail_breached" (.bool false)).truthy = false) :
    ∃ followUp, judge trigger decision execution window improved10 successful30 =
      .ok ("successful", followUp) := by
  obtain ⟨x, hx⟩ := Option.isSome_iff_exists.mp h.regressions
  have hmany : manyRegressions trigger = .ok (Binary64.le (.finite 3) x) := by
    simp [manyRegressions, hx]
  unfold judge
  rw [if_neg (by simp [h.succeeded]), if_neg (by simp [h.improved]), if_neg (by simp [hguardrail]),
    if_neg (by simp [h.recovered]), hmany]
  cases Binary64.le (.finite 3) x
  · exact ⟨_, rfl⟩
  · exact ⟨_, rfl⟩

theorem validated_outcome {measuredAt : Loaded} {outcome : String} {comparison : LoadedDict}
    {sideEffects : List Loaded} {followUp : Option String} {feedback : FeedbackRecord}
    (h : validated measuredAt outcome comparison sideEffects followUp = .ok feedback) :
    feedback.outcome = outcome := by
  unfold validated at h
  split at h <;> cases h
  rfl

variable {feedback : FeedbackRecord}

theorem recordMetrics_successful
    (h : recordMetrics service now trigger decision execution signal = .ok feedback)
    (hsuccess : feedback.outcome = "successful") :
    ∃ observations,
      augmentObservations signal service.observer now trigger.service = .ok observations ∧
        improved trigger observations.tenMinutes = .ok true ∧
        recovered trigger execution observations.thirtyMinutes = .ok true ∧
        Judged trigger execution true true := by
  obtain ⟨observations, hobservations, h⟩ := bind_ok h
  obtain ⟨improved10, himproved, h⟩ := bind_ok h
  obtain ⟨successful30, hrecovered, h⟩ := bind_ok h
  obtain ⟨⟨outcome, followUp⟩, hjudge, h⟩ := bind_ok h
  dsimp only at h
  split at h
  · cases h
    simp [liveFeedbackRequired] at hsuccess
  · obtain ⟨effects, -, h⟩ := bind_ok h
    obtain rfl : outcome = "successful" := (validated_outcome h).symm.trans hsuccess
    have hjudged := judge_successful hjudge
    obtain rfl := hjudged.improved
    obtain rfl := hjudged.recovered
    exact ⟨observations, hobservations, himproved, hrecovered, hjudged⟩

theorem recordMetrics_of_judged {observations : Observations}
    (hobservations :
      augmentObservations signal service.observer now trigger.service = .ok observations)
    (himproved : improved trigger observations.tenMinutes = .ok true)
    (hrecovered : recovered trigger execution observations.thirtyMinutes = .ok true)
    (hjudged : Judged trigger execution true true)
    (hguardrail : (valueAt observations.thirtyMinutes "business_guardrail_breached"
      (.bool false)).truthy = false)
    (hlive : hasLiveFeedbackSource observations = true) :
    (∀ feedback, recordMetrics service now trigger decision execution signal = .ok feedback →
      feedback.outcome = "successful") ∧
    ((∃ effects, sideEffectsOf observations.thirtyMinutes execution = .ok effects) →
      (∃ time, valueAt observations.thirtyMinutes "measured_at" (.str now) = .str time) →
        ∃ feedback,
          recordMetrics service now trigger decision execution signal = .ok feedback) := by
  obtain ⟨followUp, hjudge⟩ : ∃ followUp,
      judge trigger decision execution observations.thirtyMinutes true true =
        .ok ("successful", followUp) := judge_of_judged hjudged hguardrail
  have hgate : ¬ gated service execution observations = true := by simp [gated, hlive]
  rw [recordMetrics, hobservations]
  simp only [ok_bind, himproved, hrecovered, hjudge, if_neg hgate]
  constructor
  · intro feedback h
    obtain ⟨effects, -, h⟩ := bind_ok h
    exact validated_outcome h
  · rintro ⟨effects, heffects⟩ ⟨time, htime⟩
    rw [heffects, htime]
    exact ⟨_, rfl⟩

theorem inReach_of_successful
    (h : recordMetrics service now trigger decision execution signal = .ok feedback)
    (hsuccess : feedback.outcome = "successful") : InReach service trigger execution := by
  obtain ⟨observations, hobservations, himproved, hrecovered, hjudged⟩ :=
    recordMetrics_successful h hsuccess
  obtain ⟨⟨ten, hten⟩, thirty, -, hthirty⟩ := augmentObservations_ok hobservations
  rw [hten, improved_iff] at himproved
  rw [hthirty, recovered_iff hjudged.succeeded] at hrecovered
  exact
    { succeeded := hjudged.succeeded
      latency10 := canImprove_iff.mpr ⟨_, himproved.1⟩
      errorRate10 := canImprove_iff.mpr ⟨_, himproved.2⟩
      latency30 := canRecover_iff.mpr ⟨_, hrecovered.1⟩
      errorRate30 := canRecover_iff.mpr ⟨_, hrecovered.2.1⟩
      regressions := hjudged.regressions }

variable (latency10 errorRate10 latency30 errorRate30 : Loaded)

def claimedMetrics : LoadedDict :=
  [("10m", .obj [("p95_latency_ms", latency10), ("error_rate", errorRate10)]),
    ("30m", .obj [("p95_latency_ms", latency30), ("error_rate", errorRate30),
      ("source", .str "prometheus")])]

theorem augment_claimedMetrics :
    augmentObservations (claimedMetrics latency10 errorRate10 latency30 errorRate30)
        service.observer now trigger.service =
      .ok ⟨liveWindow service.observer now trigger.service "10m" ++
          [("p95_latency_ms", latency10), ("error_rate", errorRate10)],
        liveWindow service.observer now trigger.service "30m" ++
          [("p95_latency_ms", latency30), ("error_rate", errorRate30),
            ("source", .str "prometheus")], none⟩ := rfl

theorem liveSource_claimed (stub : LoadedDict) (hstub : liveSource stub = true) :
    liveSource (liveWindow service.observer now trigger.service window ++ stub) = true := by
  cases h : service.observer with
  | some observer =>
    rw [← h]
    exact liveSource_of_observer (by rw [h]; rfl) stub
  | none => exact hstub

theorem lookup_measuredAt :
    (liveWindow service.observer now trigger.service window).lookup "measured_at" =
      service.observer.map fun _ => .str now := by
  unfold liveWindow
  cases service.observer with
  | none => rfl
  | some observer =>
    simp [PrometheusObserver.observe, List.lookup_append, lookup_measured, lookup_cons_ite]

theorem claimed_of_inReach (h : InReach service trigger execution) :
    ∃ signal feedback,
      recordMetrics service now trigger decision execution signal = .ok feedback ∧
        feedback.outcome = "successful" := by
  obtain ⟨latency10, hlatency10⟩ := canImprove_iff.mp h.latency10
  obtain ⟨errorRate10, herrorRate10⟩ := canImprove_iff.mp h.errorRate10
  obtain ⟨latency30, hlatency30⟩ := canRecover_iff.mp h.latency30
  obtain ⟨errorRate30, herrorRate30⟩ := canRecover_iff.mp h.errorRate30
  obtain ⟨hall, hsome⟩ := @recordMetrics_of_judged service now trigger decision execution _ _
    (augment_claimedMetrics latency10 errorRate10 latency30 errorRate30)
    (improved_iff.mpr ⟨hlatency10, herrorRate10⟩)
    ((recovered_iff h.succeeded).mpr ⟨hlatency30, herrorRate30, rfl⟩)
    ⟨h.succeeded, rfl, rfl, h.regressions⟩
    (by rw [valueAt_append, lookup_unobserved (by decide)]; rfl)
    (by
      unfold hasLiveFeedbackSource
      rw [@liveSource_claimed service now trigger "30m" _ (by rfl)]
      simp)
  obtain ⟨feedback, hfeedback⟩ := hsome
    (by
      refine ⟨[] ++ reviewEffects execution, ?_⟩
      unfold sideEffectsOf
      rw [valueAt_append, lookup_unobserved (by decide)]
      rfl)
    (by
      refine ⟨now, ?_⟩
      rw [valueAt_append, lookup_measuredAt]
      cases service.observer <;> rfl)
  exact ⟨_, feedback, hfeedback, hall feedback hfeedback⟩

theorem Answered.observer (h : Answered service trigger) : service.observer.isSome = true := by
  have hlatency := (h "10m" (by simp)).1
  unfold latencyReading at hlatency
  cases hobserver : service.observer with
  | none => simp [hobserver] at hlatency
  | some observer => rfl

theorem recordMetrics_twoRuns (h : Answered service trigger) {other : LoadedDict}
    {feedback feedback' : FeedbackRecord}
    (hfeedback : recordMetrics service now trigger decision execution signal = .ok feedback)
    (hfeedback' : recordMetrics service now trigger decision execution other = .ok feedback')
    (hsuccess : feedback.outcome = "successful") (hfavourable : Favourable other) :
    feedback'.outcome = "successful" := by
  obtain ⟨observations, hobservations, himproved, hrecovered, hjudged⟩ :=
    recordMetrics_successful hfeedback hsuccess
  obtain ⟨⟨ten, hten⟩, thirty, -, hthirty⟩ := augmentObservations_ok hobservations
  obtain ⟨observations', hobservations', -⟩ := bind_ok hfeedback'
  obtain ⟨⟨ten', hten'⟩, thirty', hstub, hthirty'⟩ := augmentObservations_ok hobservations'
  obtain ⟨hincidents, hguardrail⟩ := hfavourable thirty' hstub
  obtain ⟨latency10, hlatency10⟩ := Option.isSome_iff_exists.mp (h "10m" (by simp)).1
  obtain ⟨errorRate10, herrorRate10⟩ := Option.isSome_iff_exists.mp (h "10m" (by simp)).2
  obtain ⟨latency30, hlatency30⟩ := Option.isSome_iff_exists.mp (h "30m" (by simp)).1
  obtain ⟨errorRate30, herrorRate30⟩ := Option.isSome_iff_exists.mp (h "30m" (by simp)).2
  have himproved' : improved trigger observations'.tenMinutes = .ok true := by
    rw [hten, improved_iff, hlatency10, herrorRate10] at himproved
    rw [hten', improved_iff, hlatency10, herrorRate10]
    exact himproved
  have hrecovered' : recovered trigger execution observations'.thirtyMinutes = .ok true := by
    rw [hthirty, recovered_iff hjudged.succeeded, hlatency30, herrorRate30] at hrecovered
    rw [hthirty', recovered_iff hjudged.succeeded, hlatency30, herrorRate30]
    exact ⟨hrecovered.1, hrecovered.2.1, hincidents⟩
  have hguardrail' : (valueAt observations'.thirtyMinutes "business_guardrail_breached"
      (.bool false)).truthy = false := by
    rw [hthirty', valueAt_append, lookup_unobserved (by decide)]
    exact hguardrail
  have hlive : hasLiveFeedbackSource observations' = true := by
    unfold hasLiveFeedbackSource
    rw [hten', liveSource_of_observer h.observer]
    rfl
  exact (recordMetrics_of_judged hobservations' himproved' hrecovered' hjudged hguardrail'
    hlive).1 feedback' hfeedback'

def healthyWindow : LoadedDict :=
  [("rollout_status", .str "healthy"), ("desired_replicas", .int 0), ("ready_replicas", .int 0),
    ("restart_delta", .int 0), ("source", .str "prometheus")]

def claimedDeployment : LoadedDict := [("30m", .obj healthyWindow)]

theorem augment_claimedDeployment :
    augmentObservations claimedDeployment service.observer now trigger.service =
      .ok ⟨liveWindow service.observer now trigger.service "10m" ++ [],
        liveWindow service.observer now trigger.service "30m" ++ healthyWindow, none⟩ := rfl

theorem deployment_claimed (hstatus : execution.status = "succeeded")
    (hlive : liveDeployment service.kubernetesObserver trigger decision execution = none) :
    ∃ feedback,
      recordKubernetes service reading now trigger decision execution claimedDeployment =
          .ok feedback ∧ feedback.outcome = "successful" := by
  have hgate : ¬ gated service execution
      ⟨liveWindow service.observer now trigger.service "10m" ++ [],
        liveWindow service.observer now trigger.service "30m" ++ healthyWindow, none⟩ = true := by
    unfold gated hasLiveFeedbackSource
    rw [@liveSource_claimed service now trigger "30m" _ (by rfl)]
    simp
  have hvalue : ∀ key, key ∉ ["p95_latency_ms", "error_rate", "source", "measured_at"] →
      ∀ default, valueAt (liveWindow service.observer now trigger.service "30m" ++ healthyWindow)
        key default = valueAt healthyWindow key default := by
    intro key hkey default
    rw [valueAt_append, lookup_unobserved hkey]
    rfl
  have htext : textAt (liveWindow service.observer now trigger.service "30m" ++ healthyWindow)
      "rollout_status" = some "healthy" := by
    unfold textAt
    rw [List.lookup_append, lookup_unobserved (by decide)]
    rfl
  have htime : valueAt (liveWindow service.observer now trigger.service "30m" ++ healthyWindow)
      "measured_at" (.str now) = .str now := by
    rw [valueAt_append, lookup_measuredAt]
    cases service.observer <;> rfl
  have hdesired : ∀ default, valueAt healthyWindow "desired_replicas" default = .int 0 :=
    fun _ => rfl
  have hready : ∀ default, valueAt healthyWindow "ready_replicas" default = .int 0 :=
    fun _ => rfl
  have hrestarts : ∀ default, valueAt healthyWindow "restart_delta" default = .int 0 :=
    fun _ => rfl
  have herrors : ∀ default, valueAt healthyWindow "new_error_signatures" default = default :=
    fun _ => rfl
  rw [recordKubernetes, augment_claimedDeployment, hlive]
  simp only [ok_bind, mergeObservations, hvalue "desired_replicas" (by decide),
    hvalue "ready_replicas" (by decide), hvalue "restart_delta" (by decide),
    hvalue "new_error_signatures" (by decide), hdesired, hready, hrestarts, herrors, intOf, listOf,
    htext, htime, if_neg hgate, validated]
  exact ⟨_, rfl, by simp [hstatus]⟩

/-- Of a deployment that was not acted on, nothing is successful. -/
theorem recordKubernetes_status
    (h : recordKubernetes service reading now trigger decision execution signal = .ok feedback)
    (hsuccess : feedback.outcome = "successful") : execution.status = "succeeded" := by
  obtain ⟨augmented, -, h⟩ := bind_ok h
  obtain ⟨desired, -, h⟩ := bind_ok h
  obtain ⟨ready, -, h⟩ := bind_ok h
  obtain ⟨restartDelta, -, h⟩ := bind_ok h
  obtain ⟨newErrorSignatures, -, h⟩ := bind_ok h
  split at h
  · cases h
    simp [liveFeedbackRequired] at hsuccess
  · rw [validated_outcome h] at hsuccess
    by_contra hstatus
    simp [hstatus] at hsuccess

theorem recordKubernetes_outcome {live : LiveDeployment} {feedback : FeedbackRecord}
    (hlive : liveDeployment service.kubernetesObserver trigger decision execution = some live)
    (h : recordKubernetes service reading now trigger decision execution signal = .ok feedback) :
    feedback.outcome = if execution.status == "succeeded" && live.rolloutStatus == "healthy" &&
      decide (live.desiredReplicas ≤ live.readyReplicas) && live.restartDelta == 0 &&
      live.newErrorSignatures.isEmpty then "successful" else "escalated" := by
  obtain ⟨augmented, -, h⟩ := bind_ok h
  rw [hlive] at h
  have hlookup : ∀ key value, live.observation.lookup key = some value → ∀ default,
      valueAt (live.observation ++ augmented.thirtyMinutes) key default = value := by
    intro key value hkey default
    rw [valueAt_append, hkey]
    rfl
  have htext : ∀ key value, live.observation.lookup key = some (.str value) →
      textAt (live.observation ++ augmented.thirtyMinutes) key = some value := by
    intro key value hkey
    unfold textAt
    rw [List.lookup_append, hkey]
    rfl
  have hgate : ¬ gated service execution
      { augmented with thirtyMinutes := live.observation ++ augmented.thirtyMinutes } = true := by
    have hsource : liveSource (live.observation ++ augmented.thirtyMinutes) = true := by
      unfold liveSource
      rfl
    simp [gated, hasLiveFeedbackSource, hsource]
  simp only [mergeObservations, if_neg hgate, hlookup "desired_replicas" _ rfl,
    hlookup "ready_replicas" _ rfl, hlookup "restart_delta" _ rfl,
    hlookup "new_error_signatures" _ rfl, htext "rollout_status" _ rfl, intOf, listOf, ok_bind,
    hlookup "measured_at" _ rfl] at h
  rw [validated_outcome h]
  simp

/-- An alert is handled if an incident was opened and the gate lets the record pass. -/
theorem recordWebhook_successful
    (h : recordWebhook service now trigger execution signal = .ok feedback) :
    feedback.outcome = "successful" ↔ execution.status = "succeeded" ∧
      (valueAt execution.externalRefs "incident_id" .null).truthy = true ∧
      ∀ observations,
        augmentObservations signal service.observer now trigger.service = .ok observations →
          gated service execution observations = false := by
  obtain ⟨observations, hobservations, h⟩ := bind_ok h
  simp only [hobservations, Except.ok.injEq, forall_eq']
  split at h
  next hgate =>
    cases h
    simp [liveFeedbackRequired, hgate]
  next hgate =>
    obtain ⟨effects, -, h⟩ := bind_ok h
    rw [validated_outcome h]
    simp [hgate]

theorem not_gated_of_observer (h : service.observer.isSome = true)
    (hobservations :
      augmentObservations signal service.observer now trigger.service = .ok observations) :
    gated service execution observations = false := by
  obtain ⟨⟨ten, hten⟩, -⟩ := augmentObservations_ok hobservations
  unfold gated hasLiveFeedbackSource
  rw [hten, liveSource_of_observer h]
  simp

/-- A signal that does nothing but name a live source. -/
def claimedSource : LoadedDict := [("30m", .obj [("source", .str "prometheus")])]

theorem webhook_claimed (hrequired : service.requireLiveObservations = true)
    (hobserver : service.observer = none) (hstatus : execution.status = "succeeded")
    (hincident : (valueAt execution.externalRefs "incident_id" .null).truthy = true) :
    ∃ feedback feedback',
      recordWebhook service now trigger execution claimedSource = .ok feedback ∧
        recordWebhook service now trigger execution [] = .ok feedback' ∧
        feedback.outcome = "successful" ∧ feedback'.outcome = "escalated" := by
  have hclaimed : augmentObservations claimedSource none now trigger.service =
      .ok ⟨[], [("source", .str "prometheus")], none⟩ := rfl
  have hsilent : augmentObservations [] none now trigger.service = .ok ⟨[], [], none⟩ := rfl
  have hopen : gated service execution ⟨[], [("source", .str "prometheus")], none⟩ = false := by
    have hlive : hasLiveFeedbackSource ⟨[], [("source", .str "prometheus")], none⟩ = true := by
      decide
    simp [gated, hlive]
  have hgated : gated service execution ⟨[], [], none⟩ = true := by
    have hnone : hasLiveFeedbackSource ⟨[], [], none⟩ = false := by decide
    simp [gated, hnone, hrequired, hstatus]
  unfold recordWebhook
  rw [hobserver, hclaimed, hsilent]
  simp only [ok_bind, hopen, hgated, hstatus, hincident, beq_self_eq_true, Bool.true_and, if_true,
    Bool.false_eq_true, if_false]
  exact ⟨_, _, rfl, rfl, rfl, rfl⟩

section

variable (htype : trigger.triggerType = "kubernetes_deployment_unhealthy")

include htype

theorem deployment_live_iff :
    SuccessIsLive service reading now trigger decision execution ↔
      (liveDeployment service.kubernetesObserver trigger decision execution).isSome = true ∨
        execution.status ≠ "succeeded" := by
  have hrecord : ∀ signal, record service reading now trigger decision execution signal =
      recordKubernetes service reading now trigger decision execution signal :=
    fun _ => if_pos htype
  constructor
  · intro hlaw
    by_contra hopen
    obtain ⟨hnone, hstatus⟩ := not_or.mp hopen
    obtain ⟨feedback, hfeedback, hsuccess⟩ :=
      @deployment_claimed service reading now trigger decision execution
        (not_not.mp hstatus) (Option.not_isSome_iff_eq_none.mp hnone)
    have hlive := hlaw.measured _ feedback (by rw [hrecord, hfeedback]) hsuccess
    unfold MeasuredLive at hlive
    rw [if_pos htype] at hlive
    exact hnone hlive
  · rintro (hsome | hstatus)
    · obtain ⟨live, hlive⟩ := Option.isSome_iff_exists.mp hsome
      refine ⟨fun _ _ _ _ => ?_, fun signal other feedback feedback' h h' hsuccess _ => ?_⟩
      · unfold MeasuredLive
        rw [if_pos htype]
        exact hsome
      · rw [hrecord] at h h'
        rw [recordKubernetes_outcome hlive h', ← recordKubernetes_outcome hlive h, hsuccess]
    · have hnever : ∀ signal feedback,
          record service reading now trigger decision execution signal = .ok feedback →
            feedback.outcome ≠ "successful" := by
        intro signal feedback h hsuccess
        rw [hrecord] at h
        exact hstatus (recordKubernetes_status h hsuccess)
      exact .of_never hnever

end

section

variable (htype : trigger.triggerType = "webhook_alert_firing")

include htype

theorem alert_live_iff (hrequired : service.requireLiveObservations = true) :
    SuccessIsLive service reading now trigger decision execution ↔
      service.observer.isSome = true ∨ execution.status ≠ "succeeded" ∨
        (valueAt execution.externalRefs "incident_id" .null).truthy = false := by
  have hother : ¬ trigger.triggerType = "kubernetes_deployment_unhealthy" := by
    rw [htype]
    decide
  have hrecord : ∀ signal, record service reading now trigger decision execution signal =
      recordWebhook service now trigger execution signal :=
    fun _ => (if_neg hother).trans (if_pos htype)
  have hmeasured : MeasuredLive service trigger decision execution := by
    unfold MeasuredLive
    rw [if_neg hother, if_pos htype]
    trivial
  constructor
  · intro hlaw
    by_contra hopen
    obtain ⟨hnone, hopen⟩ := not_or.mp hopen
    obtain ⟨hstatus, hincident⟩ := not_or.mp hopen
    obtain ⟨feedback, feedback', hfeedback, hfeedback', hsuccess, hescalated⟩ :=
      @webhook_claimed service now trigger execution hrequired
        (Option.not_isSome_iff_eq_none.mp hnone) (not_not.mp hstatus)
        (Bool.not_eq_false _ ▸ hincident)
    have hsame := hlaw.twoRuns _ [] feedback feedback' (by rw [hrecord, hfeedback])
      (by rw [hrecord, hfeedback']) hsuccess (by
        intro window hwindow
        cases hwindow
        exact ⟨rfl, rfl⟩)
    rw [hescalated] at hsame
    exact absurd hsame (by decide)
  · intro h
    refine ⟨fun _ _ _ _ => hmeasured, fun signal other feedback feedback' hf hf' hsuccess _ => ?_⟩
    rw [hrecord] at hf hf'
    obtain ⟨hstatus, hincident, -⟩ := (recordWebhook_successful hf).mp hsuccess
    rcases h with hobserver | hstatus' | hincident'
    · exact (recordWebhook_successful hf').mpr
        ⟨hstatus, hincident, fun _ => not_gated_of_observer hobserver⟩
    · exact absurd hstatus hstatus'
    · rw [hincident] at hincident'
      cases hincident'

end

theorem metrics_live_iff (hdeployment : ¬ trigger.triggerType = "kubernetes_deployment_unhealthy")
    (halert : ¬ trigger.triggerType = "webhook_alert_firing") :
    SuccessIsLive service reading now trigger decision execution ↔
      Answered service trigger ∨ ¬ InReach service trigger execution := by
  have hrecord : ∀ signal, record service reading now trigger decision execution signal =
      recordMetrics service now trigger decision execution signal :=
    fun _ => (if_neg hdeployment).trans (if_neg halert)
  have hmeasured : MeasuredLive service trigger decision execution ↔
      Answered service trigger := by
    unfold MeasuredLive
    rw [if_neg hdeployment, if_neg halert]
  constructor
  · intro hlaw
    by_contra hopen
    obtain ⟨hunanswered, hreach⟩ := not_or.mp hopen
    obtain ⟨signal, feedback, hfeedback, hsuccess⟩ :=
      @claimed_of_inReach service now trigger decision execution (not_not.mp hreach)
    exact hunanswered
      (hmeasured.mp (hlaw.measured signal feedback (by rw [hrecord, hfeedback]) hsuccess))
  · rintro (hanswered | hreach)
    · refine ⟨fun _ _ _ _ => hmeasured.mpr hanswered,
        fun signal other feedback feedback' h h' hsuccess hfavourable => ?_⟩
      rw [hrecord] at h h'
      exact recordMetrics_twoRuns hanswered h h' hsuccess hfavourable
    · have hnever : ∀ signal feedback,
          record service reading now trigger decision execution signal = .ok feedback →
            feedback.outcome ≠ "successful" := by
        intro signal feedback h hsuccess
        rw [hrecord] at h
        exact hreach (inReach_of_successful h hsuccess)
      exact .of_never hnever

/-- **Where success is live**: of a collected deployment, an observed alert, and where no signal
comes to success. -/
theorem success_is_live_iff (hrequired : service.requireLiveObservations = true) :
    SuccessIsLive service reading now trigger decision execution ↔
      Verified service trigger decision execution := by
  unfold Verified
  split_ifs with hdeployment halert
  · exact deployment_live_iff hdeployment
  · exact alert_live_iff halert hrequired
  · exact metrics_live_iff hdeployment halert

end

section

def searchRegression : FeedbackTrigger where
  triggerType := "feature_flag_performance_regression"
  service := "search-api"
  baselineLatency := some (.int 180)
  observedLatency := some (.int 420)
  baselineErrorRate := some (.int 1)
  observedErrorRate := some (.int 5)

def disableFlag : FeedbackDecision := ⟨"dec_search", "disable_flag", []⟩

def flagDisabled : FeedbackExecution :=
  ⟨"exec_search", "succeeded", [("flag_change_id", .str "ffchg_search")]⟩

def unobserved : FeedbackService := ⟨none, none, true⟩

def observedSearch : FeedbackService :=
  ⟨some ⟨fun _ _ => .value (.finite 190), fun _ _ => .value (.finite 1)⟩, none, true⟩

def noNumbers : TextReading := ⟨fun _ => none, fun _ => none⟩

theorem success_is_live_sample :
    SuccessIsLive observedSearch noNumbers "2026-01-01T00:10:00+00:00" searchRegression disableFlag
      flagDisabled :=
  (success_is_live_iff rfl).mpr (show Verified _ _ _ _ from by
    unfold Verified
    exact .inl fun _ _ => ⟨rfl, rfl⟩)

/-- A signal with the name of a live source is successful where nothing was observed. -/
theorem success_claimed_by_signal :
    ((record unobserved noNumbers "2026-01-01T00:10:00+00:00" searchRegression disableFlag
        flagDisabled (claimedMetrics (.int 190) (.int 1) (.int 190) (.int 1))).toOption.map
          FeedbackRecord.outcome = some "successful") ∧
      ¬ MeasuredLive unobserved searchRegression disableFlag flagDisabled ∧
      ((record unobserved noNumbers "2026-01-01T00:10:00+00:00" searchRegression disableFlag
        flagDisabled [("10m", .obj [("p95_latency_ms", .int 190), ("error_rate", .int 1)]),
          ("30m", .obj [("p95_latency_ms", .int 190), ("error_rate", .int 1)])]).toOption.map
            FeedbackRecord.outcome = some "escalated") := by
  refine ⟨by decide +kernel, ?_, by decide +kernel⟩
  unfold MeasuredLive
  intro h
  exact absurd (h "10m" (by simp)).1 (by decide)

end

end OrbitalMesh.Feedback
