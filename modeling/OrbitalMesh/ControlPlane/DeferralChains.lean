import OrbitalMesh.Decision.Guards
import OrbitalMesh.Signals.Kubernetes

/-!
# Chains of deferrals

A run that is decided `defer_until` leaves a record with its signal.  When the record
is due, a recheck is created with the same signal, which may be decided `defer_until`
again.  The plan of a deferral records that the recheck escalates when the symptom
persists; the decision service does not read that, nor what the recovery context
says about the decision before.
-/

namespace OrbitalMesh.Deferred

open OrbitalMesh.Decision OrbitalMesh.Signals

variable (analysis : Option ScenarioAnalysis)

def escalatedBy : Bool :=
  analysis.any ScenarioAnalysis.escalates

variable {decision : RemediationDecision} {signal : Dict}
  {reading : TextReading} {trigger : Trigger} {services : KubernetesServices}
  {choice : TieredChoice} {facts : KubernetesFacts} {after : Dict} {n : Nat}

theorem applyScenarioAnalysis_type {analysis : Option ScenarioAnalysis} {targetRollout : Int}
    {after : RemediationDecision}
    (h : applyScenarioAnalysis reading trigger analysis targetRollout decision = .ok after) :
    after.decisionType = if escalatedBy analysis then "escalate" else decision.decisionType := by
  cases analysis with
  | none =>
    cases h
    rfl
  | some analysis =>
    obtain ⟨choice, hchoice, h⟩ := bind_ok h
    cases h
    unfold ScenarioAnalysis.choice at hchoice
    split at hchoice
    · next hescalates =>
      cases hchoice
      rw [if_pos (show escalatedBy (some analysis) = true from hescalates)]
    · next hescalates =>
      cases hchoice
      rw [if_neg (show ¬ escalatedBy (some analysis) = true from hescalates)]

theorem decideKubernetes_type {analysis : Option ScenarioAnalysis}
    (h : decideKubernetes services trigger analysis = .ok decision) :
    ∃ facts choice override,
      kubernetesFacts services.reading services.window trigger = .ok facts ∧
      kubernetesChoice services facts = .ok (choice, override) ∧
      decision.decisionType = if escalatedBy analysis then "escalate" else choice.decisionType := by
  obtain ⟨facts, hfacts, h⟩ := bind_ok h
  obtain ⟨⟨choice, override⟩, hchoice, h⟩ := bind_ok h
  obtain ⟨confidence, -, h⟩ := bind_ok h
  obtain ⟨_, -, h⟩ := bind_ok h
  obtain ⟨_, -, h⟩ := bind_ok h
  obtain ⟨plan, -, h⟩ := bind_ok h
  obtain ⟨reviewed, hreviewed, h⟩ := bind_ok h
  obtain rfl := RemediationDecision.validated_eq h
  exact ⟨facts, choice, override, hfacts, hchoice, applyScenarioAnalysis_type hreviewed⟩

theorem choice_defers_iff (rung : KubernetesRung) (again : Bool) :
    (rung.choice again).decisionType = "defer_until" ↔ rung = .probeFailure := by
  cases rung <;> simp [KubernetesRung.choice]

theorem afterHypotheses_defers_iff (again : Bool) (hypotheses : List RankedHypothesis)
    (choice : TieredChoice) :
    (afterHypotheses again hypotheses choice).decisionType = "defer_until" ↔
      choice.decisionType = "defer_until" := by
  unfold afterHypotheses
  cases hup : upgrade? choice.decisionType hypotheses with
  | none => rfl
  | some top =>
    have hallowed := upgrade?_spec hup
    have htype : choice.decisionType = "escalate" := by
      unfold upgrade? at hup
      split at hup
      · next heq => simpa using heq
      · cases hup
    constructor
    · intro hdefers
      rw [show top.recommendedAction = "defer_until" from hdefers] at hallowed
      exact absurd hallowed (by decide)
    · intro hdefers
      rw [htype] at hdefers
      exact absurd hdefers (by decide)

/-- The reasoner does not make a decision wait, nor keep one from waiting that the
ladder is sure of. -/
theorem withOverride_defers_iff {reasoner : Reasoner}
    (hsure : choice.decisionType = "defer_until" → choice.confidence.lt 0.65 = false)
    (again : Bool) :
    (withOverride again (overruling reasoner choice.decisionType choice.confidence)
      choice).decisionType = "defer_until" ↔ choice.decisionType = "defer_until" := by
  cases hover : overruling reasoner choice.decisionType choice.confidence with
  | none => rfl
  | some reasoning =>
    have hallowed := (overruling_spec hover).2
    constructor
    · intro hdefers
      rw [show reasoning.suggestedAction = "defer_until" from hdefers] at hallowed
      exact absurd hallowed (by decide)
    · intro hdefers
      unfold overruling at hover
      split at hover
      · simp [hdefers, hsure hdefers] at hover
      · cases hover

/-- **The rung that waits**: the decision is to wait exactly when the ladder stops at the rung for
failing probes. -/
theorem kubernetesChoice_defers_iff {override : Option ReasoningResult}
    (h : kubernetesChoice services facts = .ok (choice, override)) :
    choice.decisionType = "defer_until" ↔ kubernetesRung facts = .probeFailure := by
  obtain ⟨asked, hasked, h⟩ := bind_ok h
  cases h
  obtain rfl := askReasoner_eq_overruling hasked
  have hladder := afterHypotheses_defers_iff facts.repeatedRollback services.hypotheses
    ((kubernetesRung facts).choice facts.repeatedRollback)
  rw [choice_defers_iff] at hladder
  rw [withOverride_defers_iff, hladder]
  intro hdefers
  rw [hladder.mp hdefers]
  show Binary64.lt 0.70 0.65 = false
  decide +kernel

theorem kubernetesRung_eq_probeFailure_iff (facts : KubernetesFacts) :
    kubernetesRung facts = .probeFailure ↔
      facts.codeRemediation = false ∧ facts.shows "oom_killed" = false ∧
        facts.shows "image_pull_failure" = false ∧ facts.rolloutStatus ≠ "failed" ∧
        facts.shows "crash_loop" = false ∧ facts.shows "probe_failure" = true := by
  unfold kubernetesRung
  cases facts.codeRemediation <;> cases facts.shows "oom_killed" <;>
    cases facts.shows "image_pull_failure" <;> cases facts.shows "crash_loop" <;>
    cases facts.shows "probe_failure" <;> cases facts.deployCorrelated <;>
    by_cases hfailed : facts.rolloutStatus = "failed" <;>
    simp [hfailed] <;> split <;> simp_all

/-- One item of a sequence, for `dict(sequence)`.  A key that is no text is found
under no text, and the item is left out. -/
def entryOf (item : Json) (index : Nat) : Except PyError (Option (String × Json)) :=
  match pyList item with
  | .ok [.str key, value] => .ok (some (key, value))
  | .ok [.arr _, _] => typeError "unhashable type: 'list'"
  | .ok [.obj _, _] => typeError "unhashable type: 'dict'"
  | .ok [_, _] => .ok none
  | .ok items =>
    valueError ("dictionary update sequence element #" ++ toString index ++ " has length " ++
      toString items.length ++ "; 2 is required")
  | .error _ =>
    typeError ("cannot convert dictionary update sequence element #" ++ toString index ++
      " to a sequence")

/-- `dict(value)`. -/
def pyDict : Json → Except PyError Dict
  | .obj members => .ok members
  | value => do
    let items ← pyList value
    let entries ← items.zipIdx.mapM fun item => entryOf item.1 item.2
    return Dict.update [] (entries.filterMap id)

/-- What one run of a chain finds around it. -/
structure Surroundings where
  runId : String
  deferId : String
  now : Instant
  store : LearningStore
  services : KubernetesServices
  analysis : Option ScenarioAnalysis
  /-- where `create_run` copies the fixture repository to, when that is there -/
  workspace : Option String
  /-- `_maybe_launch_recovery_run` launches a recovery run -/
  recovers : Bool

/-- `_execute_run` from the signal to the decision: `none` when nothing triggers. -/
def decideRun (around : Surroundings) (signal : Dict) :
    Except PyError (Option RemediationDecision) := do
  let envelope ← normalizeKubernetesSignal around.store signal
  match ← detectKubernetesTrigger envelope with
  | none => return none
  | some trigger => return some (← decideKubernetes around.services trigger around.analysis)

/-- The members of a record that `_spawn_deferred_recheck` reads. -/
structure DeferredRecheck where
  deferId : String
  sourceRunId : String
  dueAt : Instant
  signalPayload : Dict
  parameters : Dict

def recordDeferredRecheck (around : Surroundings) (signal : Dict)
    (decision : RemediationDecision) : Except PyError DeferredRecheck := do
  let parameters := objectAt decision.executionPlan "parameters"
  let deferSeconds ← pyInt around.services.reading
    (pyOr (getOr parameters "defer_seconds" (.int 300)) (.int 300))
  let dueAt ← addSeconds around.now (max deferSeconds 0)
  return {
    deferId := around.deferId, sourceRunId := around.runId, dueAt, signalPayload := signal,
    parameters }

/-- What `_spawn_deferred_recheck` adds to the recovery context. -/
def recheckMembers (record : DeferredRecheck) : Dict :=
  [("defer_id", .str record.deferId), ("source_run_id", .str record.sourceRunId),
   ("previous_decision_type", .str "defer_until"),
   ("defer_condition", getOr record.parameters "condition" .null)]

/-- `_spawn_deferred_recheck`, up to `create_run`: the signal of the recheck. -/
def spawnDeferredRecheck (record : DeferredRecheck) : Except PyError Dict :=
  match getOr record.signalPayload "related_context" (.obj []) with
  | .obj related => do
    let recovery ← pyDict (pyOr (getOr related "recovery_context" .null) (.obj []))
    return record.signalPayload.set "related_context"
      (.obj (Dict.set related "recovery_context"
        (.obj (recovery.update (recheckMembers record)))))
  | _ => .ok record.signalPayload

def resolveSignalPlaceholders (workspace : Option String) (signal : Dict) : Dict :=
  match getOr signal "related_context" .null, workspace with
  | .obj related, some workspace =>
    if getOr related "repo_path" .null = .str "__FIXTURE_REPO__" then
      signal.set "related_context"
        (.obj (Dict.set related "repo_path" (.str (workspace ++ "/search_service"))))
    else signal
  | _, _ => signal

def recheckSignal (around next : Surroundings) (signal : Dict) (decision : RemediationDecision) :
    Except PyError Dict := do
  let record ← recordDeferredRecheck around signal decision
  let payload ← spawnDeferredRecheck record
  return resolveSignalPlaceholders next.workspace payload

/-- `recovery_context.previous_decision_type = 'defer_until'`. -/
def carriesDeferral (signal : Dict) : Bool :=
  getOr (objectAt (objectAt signal "related_context") "recovery_context")
    "previous_decision_type" .null == .str "defer_until"

def decisionOf (around : Surroundings) (signal : Dict) : Option RemediationDecision :=
  match decideRun around signal with
  | .ok decision => decision
  | .error _ => none

def waits (around : Surroundings) (decision : RemediationDecision) : Bool :=
  decision.decisionType == "defer_until" && !around.recovers

/-- The chain that begins with a signal, and the signal of its `n`-th run: `none` when
the chain has ended before. -/
def runSignal (start : Dict) (around : Nat → Surroundings) : Nat → Option Dict
  | 0 => some start
  | n + 1 => do
    let signal ← runSignal start around n
    let decision ← decisionOf (around n) signal
    if waits (around n) decision then
      (recheckSignal (around n) (around (n + 1)) signal decision).toOption
    else none

/-- The next signal differs in the recovery context, which carries the deferral, and in how a
repository is named. -/
structure Follows (signal next : Dict) : Prop where
  outside : Dict.AgreeOff ["related_context"] signal next
  context : ∀ base : Dict, Dict.AgreeOff ["recovery_context", "repo_path"]
    (base.update (objectAt signal "related_context"))
    (base.update (objectAt next "related_context"))
  repoPath : ∀ base : Dict,
    truthy (getOr (base.update (objectAt signal "related_context")) "repo_path" .null) =
      truthy (getOr (base.update (objectAt next "related_context")) "repo_path" .null)
  carries : carriesDeferral next = true

theorem relatedContext_of_decision {around : Surroundings}
    (h : decisionOf around signal = some decision) :
    getOr signal "related_context" (.obj []) = .obj (objectAt signal "related_context") := by
  have hvalid : validatePayload kubernetesSignalSchema (.obj signal) = .ok () := by
    unfold decisionOf at h
    split at h
    · next hrun =>
      obtain ⟨_, henvelope, -⟩ := bind_ok hrun
      obtain ⟨_, hvalid, -⟩ := bind_ok henvelope
      exact hvalid
    · cases h
  cases hfound : signal.get? "related_context" with
  | none => simp [getOr, objectAt, hfound]
  | some value =>
    have hschema : kubernetesSignalSchema.properties.lookup "related_context" =
        some Schema.object := rfl
    have htype := validateNode_type (validateNode_member hvalid rfl hfound hschema) rfl
    cases value with
    | obj members => simp [getOr, objectAt, hfound, Json.asObj?]
    | _ => simp [Schema.object, matchesType] at htype

theorem objectAt_set (d : Dict) (key : String) (members : Dict) :
    objectAt (d.set key (.obj members)) key = members := by
  simp [objectAt, Dict.get?_set_self, Json.asObj?]

theorem AgreeOff_set (d : Dict) (key : String) (value : Json) :
    Dict.AgreeOff [key] d (d.set key value) :=
  (Dict.AgreeOff.refl [key] d).set_right (by simp) value

theorem carries_of_recovery (recovery : Dict) (record : DeferredRecheck)
    (h : (objectAt signal "related_context").get? "recovery_context" =
      some (.obj (recovery.update (recheckMembers record)))) : carriesDeferral signal = true := by
  have hmember : (recovery.update (recheckMembers record)).get? "previous_decision_type" =
      some (.str "defer_until") :=
    Dict.get?_update_of_some (by simp [Dict.Distinct, recheckMembers]) _
      (by simp [recheckMembers, Dict.get?_cons])
  simp [carriesDeferral, objectAt, getOr] at h ⊢
  simp [h, Json.asObj?, hmember]

theorem spawnDeferredRecheck_spec {record : DeferredRecheck} {payload : Dict}
    (hcontext : getOr record.signalPayload "related_context" (.obj []) =
      .obj (objectAt record.signalPayload "related_context"))
    (h : spawnDeferredRecheck record = .ok payload) :
    ∃ recovery : Dict, payload = record.signalPayload.set "related_context"
      (.obj ((objectAt record.signalPayload "related_context").set "recovery_context"
        (.obj (recovery.update (recheckMembers record))))) := by
  rw [spawnDeferredRecheck, hcontext] at h
  obtain ⟨recovery, -, h⟩ := bind_ok h
  cases h
  exact ⟨recovery, rfl⟩

theorem resolveSignalPlaceholders_cases (workspace : Option String) (signal : Dict) :
    resolveSignalPlaceholders workspace signal = signal ∨
      ∃ path : String, path ≠ "" ∧
        (objectAt signal "related_context").get? "repo_path" = some (.str "__FIXTURE_REPO__") ∧
        resolveSignalPlaceholders workspace signal = signal.set "related_context"
          (.obj ((objectAt signal "related_context").set "repo_path" (.str path))) := by
  unfold resolveSignalPlaceholders
  split
  · next related workspace hrelated =>
    have hobject : objectAt signal "related_context" = related := by
      unfold getOr at hrelated
      cases hfound : signal.get? "related_context" with
      | none => simp [hfound] at hrelated
      | some value =>
        rw [hfound] at hrelated
        simp only [Option.getD_some] at hrelated
        simp [objectAt, hfound, hrelated, Json.asObj?]
    split
    · next hplaceholder =>
      refine .inr ⟨workspace ++ "/search_service", by simp, ?_, by rw [hobject]⟩
      rw [hobject]
      unfold getOr at hplaceholder
      cases hfound : Dict.get? related "repo_path" with
      | none => simp [hfound] at hplaceholder
      | some value => simpa [hfound] using hplaceholder
    · exact .inl rfl
  · exact .inl rfl

/-- Setting one of the keys in the client's context. -/
theorem update_set_agrees (related : Dict) {key : String}
    (hkey : key ∈ ["recovery_context", "repo_path"]) (value : Json) (base : Dict) :
    Dict.AgreeOff ["recovery_context", "repo_path"] (base.update related)
      (base.update (related.set key value)) :=
  (Dict.AgreeOff.refl _ base).update_set hkey related value

variable {next : Surroundings}

/-- **The recheck follows the run.** -/
theorem recheckSignal_follows {around : Surroundings}
    (hdecided : decisionOf around signal = some decision)
    (h : recheckSignal around next signal decision = .ok after) : Follows signal after := by
  obtain ⟨record, hrecord, h⟩ := bind_ok h
  obtain ⟨payload, hpayload, h⟩ := bind_ok h
  cases h
  have hsame : record.signalPayload = signal := by
    obtain ⟨_, -, hrecord⟩ := bind_ok hrecord
    obtain ⟨_, -, hrecord⟩ := bind_ok hrecord
    cases hrecord
    rfl
  obtain ⟨recovery, rfl⟩ := spawnDeferredRecheck_spec
    (by rw [hsame]; exact relatedContext_of_decision hdecided) hpayload
  rw [hsame]
  generalize hrelated : objectAt signal "related_context" = related
  generalize hrecovery : Json.obj (recovery.update (recheckMembers record)) = given
  have hrepo : ∀ base : Dict, (base.update related).get? "repo_path" =
      (base.update (related.set "recovery_context" given)).get? "repo_path" := fun base =>
    ((Dict.AgreeOff.refl ["recovery_context"] base).update_set (by simp) related given)
      "repo_path" (by simp)
  rcases resolveSignalPlaceholders_cases next.workspace
    (signal.set "related_context" (.obj (related.set "recovery_context" given)))
    with hresolved | ⟨path, hpath, hplaceholder, hresolved⟩
  · rw [hresolved]
    refine ⟨AgreeOff_set _ _ _, fun base => ?_, fun base => ?_,
      carries_of_recovery recovery record ?_⟩
    · rw [hrelated, objectAt_set]
      exact update_set_agrees related (by simp) given base
    · rw [hrelated, objectAt_set, getOr, getOr, hrepo]
    · rw [objectAt_set, ← hrecovery, Dict.get?_set_self]
  · rw [objectAt_set] at hplaceholder hresolved
    rw [hresolved]
    refine ⟨(AgreeOff_set _ _ _).trans (AgreeOff_set _ _ _), fun base => ?_, fun base => ?_,
      carries_of_recovery recovery record ?_⟩
    · rw [hrelated, objectAt_set]
      exact (update_set_agrees related (by simp) given base).trans
        (update_set_agrees _ (by simp) (.str path) base)
    · rw [hrelated, objectAt_set, getOr, getOr, hrepo]
      rcases Dict.get?_update_set_cases hplaceholder (.str path) base with ⟨hold, hnew⟩ | heq
      · rw [hold, hnew]
        simp [truthy, hpath]
      · rw [heq]
    · rw [objectAt_set, Dict.get?_set_of_ne _ _ (by decide), ← hrecovery, Dict.get?_set_self]

def looseKeys : List String := ["recovery_context", "repo_path"] ++ enrichedKeys

theorem AgreeOff_mono {keys keys' : List String} (hkeys : keys ⊆ keys') {d d' : Dict}
    (h : Dict.AgreeOff keys d d') : Dict.AgreeOff keys' d d' :=
  fun key hkey => h key fun hmem => hkey (hkeys hmem)

theorem Follows.triggers_agree {next : Dict} (h : Follows signal next)
    (store store' : LearningStore) :
    Dict.AgreeOff looseKeys (kubernetesTrigger (kubernetesEnvelope store signal)).relatedContext
      (kubernetesTrigger (kubernetesEnvelope store' next)).relatedContext := by
  have henriched : enrichedKeys ⊆ looseKeys := List.subset_append_right _ _
  refine kubernetesTrigger_agrees h.outside ?_ henriched (by decide)
  have hclient : Dict.AgreeOff looseKeys
      (kubernetesContextDefaults.update (objectAt signal "related_context"))
      (kubernetesContextDefaults.update (objectAt next "related_context")) :=
    AgreeOff_mono (List.subset_append_left _ _) (h.context _)
  have hlearned := enrichFromLearning_agrees henriched store
    (kubernetesContextDefaults.update (objectAt signal "related_context")) (textAt signal "service")
    none
  have hlearned' := enrichFromLearning_agrees henriched store'
    (kubernetesContextDefaults.update (objectAt next "related_context")) (textAt next "service")
    none
  intro key hkey
  exact (hlearned key hkey).symm.trans ((hclient key hkey).trans (hlearned' key hkey))

theorem trigger_repoPath (store : LearningStore) (raw : Dict) :
    (kubernetesTrigger (kubernetesEnvelope store raw)).context "repo_path" =
      getOr (kubernetesContextDefaults.update (objectAt raw "related_context")) "repo_path"
        .null := by
  have hlearned : (kubernetesContext store raw).get? "repo_path" =
      (kubernetesContextDefaults.update (objectAt raw "related_context")).get? "repo_path" :=
    (enrichFromLearning_agrees (List.Subset.refl _) store _ _ none "repo_path" (by decide)).symm
  rw [Trigger.context, getOr, getOr, ← hlearned, kubernetesTrigger_context]
  cases hfound : (kubernetesContext store raw).get? "repo_path" with
  | none =>
    rw [Dict.get?_update_of_none _ _ _ hfound]
    simp [detectedKubernetesContext, Dict.get?_cons]
  | some value => rw [Dict.get?_update_of_some (kubernetesContext_distinct _ _) _ hfound]

/-- What the ladder reads to stop at the rung for failing probes, of two contexts that
agree. -/
theorem kubernetesFacts_agree {reading' : TextReading} {window window' : Int} {trigger' : Trigger}
    {facts' : KubernetesFacts}
    (hcontext : Dict.AgreeOff looseKeys trigger.relatedContext trigger'.relatedContext)
    (hrepo : truthy (trigger.context "repo_path") = truthy (trigger'.context "repo_path"))
    (hfacts : kubernetesFacts reading window trigger = .ok facts)
    (hfacts' : kubernetesFacts reading' window' trigger' = .ok facts') :
    facts'.errorSignatures = facts.errorSignatures ∧
      facts'.rolloutStatus = facts.rolloutStatus ∧
      facts'.codeRemediation = facts.codeRemediation := by
  have hread : ∀ key ∈ ["error_signatures", "event_reasons", "allowed_paths", "test_commands",
      "rollout_status", "code_remediation_candidate", "suspected_file", "patch_template"],
      ∀ default, getOr trigger.relatedContext key default =
        getOr trigger'.relatedContext key default := by
    intro key hkey default
    refine getOr_of_agree hcontext ?_ default
    revert key
    decide
  obtain ⟨signatures, hsignatures, hfacts⟩ := bind_ok hfacts
  obtain ⟨reasons, -, hfacts⟩ := bind_ok hfacts
  obtain ⟨paths, hpaths, hfacts⟩ := bind_ok hfacts
  obtain ⟨commands, hcommands, hfacts⟩ := bind_ok hfacts
  obtain ⟨_, -, hfacts⟩ := bind_ok hfacts
  obtain ⟨_, -, hfacts⟩ := bind_ok hfacts
  obtain ⟨_, -, hfacts⟩ := bind_ok hfacts
  obtain ⟨signatures', hsignatures', hfacts'⟩ := bind_ok hfacts'
  obtain ⟨reasons', -, hfacts'⟩ := bind_ok hfacts'
  obtain ⟨paths', hpaths', hfacts'⟩ := bind_ok hfacts'
  obtain ⟨commands', hcommands', hfacts'⟩ := bind_ok hfacts'
  obtain ⟨_, -, hfacts'⟩ := bind_ok hfacts'
  obtain ⟨_, -, hfacts'⟩ := bind_ok hfacts'
  obtain ⟨_, -, hfacts'⟩ := bind_ok hfacts'
  cases hfacts
  cases hfacts'
  rw [hread "error_signatures" (by simp), hsignatures'] at hsignatures
  rw [hread "allowed_paths" (by simp), hpaths'] at hpaths
  rw [hread "test_commands" (by simp), hcommands'] at hcommands
  cases hsignatures
  cases hpaths
  cases hcommands
  refine ⟨rfl, ?_, ?_⟩
  · simp only [hread "rollout_status" (by simp)]
  · simp only [codeRemediationSupplied, flagAt, hrepo]
    simp only [Trigger.context, hread "code_remediation_candidate" (by simp),
      hread "suspected_file" (by simp), hread "patch_template" (by simp)]

theorem decisionOf_spec {around : Surroundings} (h : decisionOf around signal = some decision) :
    decideKubernetes around.services
      (kubernetesTrigger (kubernetesEnvelope around.store signal)) around.analysis =
        .ok decision := by
  unfold decisionOf at h
  split at h
  · next hrun =>
    subst h
    obtain ⟨_, henvelope, hrun⟩ := bind_ok hrun
    obtain ⟨_, -, henvelope⟩ := bind_ok henvelope
    cases henvelope
    obtain ⟨found, hfound, hrun⟩ := bind_ok hrun
    unfold detectKubernetesTrigger at hfound
    split at hfound
    · obtain ⟨_, -, hfound⟩ := bind_ok hfound
      cases hfound
      obtain ⟨_, hdecided, hrun⟩ := bind_ok hrun
      cases hrun
      exact hdecided
    · cases hfound
      cases hrun
  · cases h

/-- **The symptom persists**: a recheck of a run that waits waits again, unless it is escalated. -/
theorem recheck_defers {around : Surroundings} {again : RemediationDecision}
    (hfollows : Follows signal after) (hdecided : decisionOf around signal = some decision)
    (hdefers : decision.decisionType = "defer_until")
    (hagain : decisionOf next after = some again) :
    again.decisionType = if escalatedBy next.analysis then "escalate" else "defer_until" := by
  obtain ⟨facts, choice, override, hfacts, hchoice, htype⟩ :=
    decideKubernetes_type (decisionOf_spec hdecided)
  obtain ⟨facts', choice', override', hfacts', hchoice', htype'⟩ :=
    decideKubernetes_type (decisionOf_spec hagain)
  have hrung : kubernetesRung facts = .probeFailure := by
    rw [← kubernetesChoice_defers_iff hchoice]
    rw [hdefers] at htype
    split at htype
    · exact absurd htype (by decide)
    · exact htype.symm
  have hrepo : truthy ((kubernetesTrigger (kubernetesEnvelope around.store signal)).context
      "repo_path") = truthy ((kubernetesTrigger (kubernetesEnvelope next.store after)).context
      "repo_path") := by
    rw [trigger_repoPath, trigger_repoPath]
    exact hfollows.repoPath _
  obtain ⟨hsignatures, hstatus, hremediation⟩ :=
    kubernetesFacts_agree (hfollows.triggers_agree _ _) hrepo hfacts hfacts'
  have hrung' : kubernetesRung facts' = .probeFailure := by
    rw [kubernetesRung_eq_probeFailure_iff] at hrung ⊢
    simp only [KubernetesFacts.shows, hsignatures, hstatus, hremediation] at hrung ⊢
    exact hrung
  rw [htype', (kubernetesChoice_defers_iff hchoice').mpr hrung']

variable {start : Dict} {around : Nat → Surroundings}

theorem runSignal_succ (h : runSignal start around (n + 1) = some after) :
    ∃ signal decision, runSignal start around n = some signal ∧
      decisionOf (around n) signal = some decision ∧ waits (around n) decision = true ∧
      recheckSignal (around n) (around (n + 1)) signal decision = .ok after := by
  obtain ⟨signal, hsignal, h⟩ := Option.bind_eq_some_iff.mp h
  obtain ⟨decision, hdecided, h⟩ := Option.bind_eq_some_iff.mp h
  split at h
  · next hwaits =>
    refine ⟨signal, decision, hsignal, hdecided, hwaits, ?_⟩
    generalize recheckSignal (around n) (around (n + 1)) signal decision = answer at h
    cases answer with
    | ok found => cases h; rfl
    | error e => cases h
  · cases h

theorem runSignal_recheck (hsignal : runSignal start around (n + 1) = some signal)
    (hdecided : decisionOf (around (n + 1)) signal = some decision) :
    carriesDeferral signal = true ∧
      decision.decisionType =
        if escalatedBy (around (n + 1)).analysis then "escalate" else "defer_until" := by
  obtain ⟨before, previous, -, hprevious, hwaits, hrecheck⟩ := runSignal_succ hsignal
  have hfollows := recheckSignal_follows hprevious hrecheck
  have hdefers : previous.decisionType = "defer_until" := by
    simp only [waits, Bool.and_eq_true, beq_iff_eq] at hwaits
    exact hwaits.1
  exact ⟨hfollows.carries, recheck_defers hfollows hprevious hdefers hdecided⟩

/-- No run of the chain fails: each one that is created comes to a decision, and the
recheck of one that waits is created. -/
def Completes (start : Dict) (around : Nat → Surroundings) : Prop :=
  ∀ n signal, runSignal start around n = some signal →
    ∃ decision, decisionOf (around n) signal = some decision ∧
      (waits (around n) decision = true → (runSignal start around (n + 1)).isSome = true)

/-- The decision of the first run is to wait. -/
def startsWaiting (start : Dict) (around : Nat → Surroundings) : Bool :=
  (decisionOf (around 0) start).any fun decision => decision.decisionType == "defer_until"

theorem runSignal_none_of_not_waits
    (h : ∀ signal decision, runSignal start around n = some signal →
      decisionOf (around n) signal = some decision → waits (around n) decision = false) :
    runSignal start around (n + 1) = none := by
  rw [Option.eq_none_iff_forall_ne_some]
  intro after hafter
  obtain ⟨signal, decision, hsignal, hdecided, hwaits, -⟩ := runSignal_succ hafter
  rw [h signal decision hsignal hdecided] at hwaits
  cases hwaits

theorem runSignal_none_of_escalated (hescalates : escalatedBy (around (n + 1)).analysis = true) :
    runSignal start around (n + 2) = none := by
  refine runSignal_none_of_not_waits fun signal decision hsignal hdecided => ?_
  have htype := (runSignal_recheck hsignal hdecided).2
  rw [if_pos hescalates] at htype
  simp [waits, htype]

theorem ends_cases (hcompletes : Completes start around) (hnone : runSignal start around n = none) :
    startsWaiting start around = false ∨ (∃ m, (around m).recovers = true) ∨
      ∃ m, escalatedBy (around (m + 1)).analysis = true := by
  -- the last run before the end has come to a decision and does not wait
  induction n with
  | zero => cases hnone
  | succ n ih =>
    cases hsignal : runSignal start around n with
    | none => exact ih hsignal
    | some signal =>
      obtain ⟨decision, hdecided, hnext⟩ := hcompletes n signal hsignal
      have hwaits : waits (around n) decision = false := by
        cases hw : waits (around n) decision with
        | false => rfl
        | true =>
          have hsome := hnext hw
          rw [hnone] at hsome
          cases hsome
      rw [waits, Bool.and_eq_false_iff, Bool.not_eq_false'] at hwaits
      rcases hwaits with htype | hrecovers
      · cases n with
        | zero =>
          cases hsignal
          exact .inl (by simp [startsWaiting, hdecided, htype])
        | succ n =>
          refine .inr (.inr ⟨n, ?_⟩)
          have hagain := (runSignal_recheck hsignal hdecided).2
          by_contra hescalates
          rw [if_neg hescalates] at hagain
          simp [hagain] at htype
      · exact .inr (.inl ⟨n, hrecovers⟩)

/-- **Chains of deferrals** end exactly if the first run does not wait, or some run recovers or is
escalated. -/
theorem deferral_ends_iff (start : Dict) (around : Nat → Surroundings) :
    (∀ n signal decision, runSignal start around (n + 1) = some signal →
      decisionOf (around (n + 1)) signal = some decision →
      carriesDeferral signal = true ∧
        (decision.decisionType ≠ "defer_until" ↔ escalatedBy (around (n + 1)).analysis = true) ∧
        (decision.decisionType = "escalate" ↔ escalatedBy (around (n + 1)).analysis = true)) ∧
    (Completes start around →
      ((∃ n, runSignal start around n = none) ↔
        startsWaiting start around = false ∨ (∃ n, (around n).recovers = true) ∨
          ∃ n, escalatedBy (around (n + 1)).analysis = true)) := by
  constructor
  · intro n signal decision hsignal hdecided
    obtain ⟨hcarries, htype⟩ := runSignal_recheck hsignal hdecided
    refine ⟨hcarries, ?_, ?_⟩
    · rw [htype]
      split <;> simp_all
    · rw [htype]
      split <;> simp_all
  · intro hcompletes
    constructor
    · rintro ⟨n, hnone⟩
      exact ends_cases hcompletes hnone
    · rintro (hstart | ⟨n, hrecovers⟩ | ⟨n, hescalates⟩)
      · refine ⟨1, runSignal_none_of_not_waits ?_⟩
        intro signal decision hsignal hdecided
        cases hsignal
        simp only [startsWaiting, hdecided, Option.any_some] at hstart
        simp [waits, hstart]
      · refine ⟨n + 1, runSignal_none_of_not_waits fun _ _ _ _ => ?_⟩
        simp [waits, hrecovers]
      · exact ⟨n + 2, runSignal_none_of_escalated hescalates⟩

def sampleProbeFailure : Dict :=
  [("signal_type", .str "kubernetes_deployment_issue"), ("signal_id", .str "sig_1"),
   ("observed_at", .str "2026-07-12T16:00:00Z"), ("environment", .str "production"),
   ("cluster", .str "main"), ("namespace", .str "shop"), ("service", .str "checkout"),
   ("deployment", .obj
      [("name", .str "checkout"), ("revision", .str "7"), ("image", .str "checkout:7"),
       ("rollout_started_at", .str "2026-07-12T15:00:00Z"), ("rollout_status", .str "degraded"),
       ("desired_replicas", .int 1), ("updated_replicas", .int 1),
       ("available_replicas", .int 0)]),
   ("pods", .arr [.obj
      [("name", .str "checkout-0"), ("phase", .str "Running"), ("ready", .bool false),
       ("restarts", .int 0), ("container_status", .str "Running")]]),
   ("events", .arr [.obj
      [("reason", .str "Unhealthy"), ("message", .str "HTTP 503"),
       ("count", .int 4), ("type", .str "Warning")]]),
   ("logs", .arr [])]

def sampleRun (n : Nat) : Surroundings where
  runId := "run_" ++ toString n
  deferId := "defer_" ++ toString n
  now := 0
  store := none
  services := servicesWith []
  analysis := if n = 0 then none else analysis
  workspace := none
  recovers := false

def sampleEscalation : ScenarioAnalysis where
  suggestedDecisionType := "escalate"
  confidence := 0.6
  riskLevel := "high"
  autonomyTierHint := "escalated"
  requiredReviewReasons := ["Signal indicates high business impact"]

def escalatedChain : Nat → Surroundings := sampleRun (some sampleEscalation)

theorem escalatedChain_completes : Completes sampleProbeFailure escalatedChain := by
  have hended : ∀ n, runSignal sampleProbeFailure escalatedChain (n + 2) = none := by
    intro n
    induction n with
    | zero => exact runSignal_none_of_escalated (by decide +kernel)
    | succ n ih =>
      refine runSignal_none_of_not_waits fun signal _ hsignal _ => ?_
      rw [ih] at hsignal
      cases hsignal
  intro n signal hsignal
  match n with
  | 0 =>
    cases hsignal
    have hsome : (decisionOf (escalatedChain 0) sampleProbeFailure).isSome = true := by
      decide +kernel
    obtain ⟨decision, hdecided⟩ := Option.isSome_iff_exists.mp hsome
    exact ⟨decision, hdecided, fun _ => by decide +kernel⟩
  | 1 =>
    have hsome : ((runSignal sampleProbeFailure escalatedChain 1).bind
        (decisionOf (escalatedChain 1))).isSome = true := by
      decide +kernel
    rw [hsignal] at hsome
    obtain ⟨decision, hdecided⟩ := Option.isSome_iff_exists.mp hsome
    refine ⟨decision, hdecided, fun hwaits => ?_⟩
    have htype := (runSignal_recheck hsignal hdecided).2
    rw [if_pos (by decide +kernel)] at htype
    simp [waits, htype] at hwaits
  | n + 2 =>
    rw [hended] at hsignal
    cases hsignal

/-- The first run waits; the analysis escalates the recheck, and the chain ends. -/
theorem deferral_ends_escalated :
    startsWaiting sampleProbeFailure escalatedChain = true ∧
      ∃ n, runSignal sampleProbeFailure escalatedChain n = none :=
  ⟨by decide +kernel,
    ((deferral_ends_iff sampleProbeFailure escalatedChain).2 escalatedChain_completes).mpr
      (.inr (.inr ⟨0, by decide +kernel⟩))⟩

def decidedAs (around : Surroundings) (signal : Dict) (decisionType : String) : Bool :=
  (decisionOf around signal).any fun decision => decision.decisionType == decisionType

/-- The probe still fails, the recheck carries the deferral, and it waits again. -/
theorem recheck_waits_again :
    ∃ signal, runSignal sampleProbeFailure (sampleRun none) 1 = some signal ∧
      carriesDeferral signal = true ∧
      decidedAs (sampleRun none 1) signal "defer_until" = true := by
  have hrun : (runSignal sampleProbeFailure (sampleRun none) 1).any (fun signal =>
      carriesDeferral signal && decidedAs (sampleRun none 1) signal "defer_until") = true := by
    decide +kernel
  rw [Option.any_eq_true] at hrun
  obtain ⟨signal, hsignal, hrun⟩ := hrun
  rw [Bool.and_eq_true] at hrun
  exact ⟨signal, hsignal, hrun.1, hrun.2⟩

end OrbitalMesh.Deferred
