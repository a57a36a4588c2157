import OrbitalMesh.Decision.Guards
import OrbitalMesh.Decision.RethNode
import OrbitalMesh.Signals.RethNode

/-!
# Hazards of Reth nodes

A hazard is a state of a node in which nothing may be done to it unasked.  Detection
turns some hazards into signatures; the others, the state of the validator and recent
restarts, are only looked at by the decision, and only where detection has found
something wrong with the node.

The context of the trigger ends with the client's own members, so a client that
brings `error_signatures` of its own decides which signatures the decision sees.
-/

namespace OrbitalMesh.Signals

open OrbitalMesh.Decision

/-- `normalize_signal`, `detect` and `decide`, one after the other. -/
def rethPipeline (reading : RethReading) (store : LearningStore) (policy : RethPolicy)
    (advice : RethAdvice) (raw : Dict) : Except PyError (Option RemediationDecision) := do
  let envelope ← normalizeRethNodeSignal store raw
  match ← detectRethNodeTrigger reading envelope with
  | none => return none
  | some trigger =>
    return some (← decideRethNode reading.toTextReading policy advice trigger)

/-- `storage["disk_used_pct"] >= 90`. -/
def diskPressure (storage : Dict) : Bool :=
  (asNumber? (getOr storage "disk_used_pct" .null)).any fun used =>
    Binary64.le (.finite 90) used.exact

/-- The hazards that detection turns into signatures: of the engine API, of the secret, of the
disk, and an exposed interface. -/
def detectedHazard (reading : RethReading) (raw : Dict) : Bool :=
  let consensus := objectAt raw "consensus"
  let rpc := objectAt raw "rpc"
  isFalse consensus "engine_api_reachable" || isFalse consensus "forkchoice_updates_recent" ||
    jwtMissing consensus ||
    jwtModeInsecure reading (getOr consensus "jwt_secret_mode" .null) ||
    diskPressure (objectAt raw "storage") ||
    isTrue rpc "publicly_exposed" || isTrue rpc "authrpc_publicly_exposed"

def restartsAtCap (reading : TextReading) (policy : RethPolicy) (context : Dict)
    (restartsByMesh : Int) : Bool :=
  match recentRestarts reading context restartsByMesh with
  | .ok restarts => decide (policy.maxRestartsPerWindow ≤ restarts)
  | .error _ => false

/-- The hazards that the decision looks at: a duty of the validator, the window for a twin, a
restored slashing database, restarts at the cap. -/
def guardedHazard (reading : RethReading) (store : LearningStore) (policy : RethPolicy)
    (advice : RethAdvice) (raw : Dict) : Bool :=
  let consensus := objectAt raw "consensus"
  validatorDutyImminent consensus || doppelgangerWindow consensus ||
    slashingDbRestored consensus ||
    restartsAtCap reading.toTextReading policy (rethContext store raw) advice.restartsByMesh

variable {reading : RethReading} {store : LearningStore} {policy : RethPolicy}
  {advice : RethAdvice} {raw : Dict} {part name : String} {counts : Dict} {signatures : List String}
  {decision : RemediationDecision}

theorem rethEnvelope_part (hpart : part ∈ rethParts) :
    (rethEnvelope store raw).payload.get? part = some (getOr raw part .null) := by
  simp only [rethParts, List.mem_cons, List.not_mem_nil, or_false] at hpart
  rcases hpart with rfl | rfl | rfl | rfl | rfl | rfl | rfl <;>
    simp [rethEnvelope, rethParts, Dict.get?_cons]

theorem rethEnvelope_context :
    objectAt (rethEnvelope store raw).payload "related_context" = rethContext store raw := by
  simp [rethEnvelope, objectAt, rethParts, Dict.get?_cons, Json.asObj?]

theorem rethEnvelope_objectAt (hpart : part ∈ rethParts) :
    objectAt (rethEnvelope store raw).payload part = objectAt raw part := by
  rw [objectAt, rethEnvelope_part hpart, objectAt, getOr]
  cases raw.get? part <;> rfl

theorem rethContext_distinct : (rethContext store raw).Distinct := by
  refine enrichFromLearning_distinct ((Dict.Distinct.update ?_ _).update _) _ _ _
  simp [Dict.Distinct, rethContextDefaults]

theorem rethContext_part (hpart : part ∈ rethParts) :
    (rethContext store raw).get? part = some (getOr raw part .null) := by
  have hother : part ∉ enrichedKeys := by
    revert part
    decide
  have hlearned := enrichFromLearning_agrees (List.Subset.refl enrichedKeys) store
    (((rethContextDefaults raw).update (objectAt raw "related_context")).update
      (rethParts.map fun part => (part, getOr raw part .null)))
    (textAt raw "service") (some "reth.node") part hother
  rw [rethContext, ← hlearned]
  refine Dict.get?_update_of_some ?_ _ ?_
  · simp [Dict.Distinct, rethParts]
  · simp only [rethParts, List.mem_cons, List.not_mem_nil, or_false] at hpart
    rcases hpart with rfl | rfl | rfl | rfl | rfl | rfl | rfl <;>
      simp [rethParts, Dict.get?_cons]

variable {context : Dict} {key : String} {restarts : Int}

theorem rethTriggerContext_of_some (hdistinct : context.Distinct) (hkey : key ∉ ownMembers)
    {value : Json} (hfound : context.get? key = some value) :
    (rethTriggerContext counts signatures context).get? key = some value := by
  refine Dict.get?_update_of_some (hdistinct.filter _) _ ?_
  rw [Dict.get?_filter context (fun name => !ownMembers.contains name) (by simpa using hkey),
    hfound]

theorem rethTriggerContext_of_none (hnone : context.get? key = none) :
    (rethTriggerContext counts signatures context).get? key =
      Dict.get? ([("release_id", getOr context "release_id" .null)] ++ counts ++
        [("trigger_signals", .arr (signatures.map .str)),
         ("error_signatures", .arr (signatures.map .str))]) key := by
  refine Dict.get?_update_of_none _ _ _ ?_
  cases hkey : !ownMembers.contains key with
  | true => rw [Dict.get?_filter context (fun name => !ownMembers.contains name) hkey, hnone]
  | false => exact Dict.get?_filter_of_not context (fun name => !ownMembers.contains name) hkey

/-- What detection sets last. -/
theorem rethTriggerContext_own (hkey : key ∈ ownMembers) :
    (rethTriggerContext counts signatures context).get? key =
      Dict.get? ([("release_id", getOr context "release_id" .null)] ++ counts ++
        [("trigger_signals", .arr (signatures.map .str)),
         ("error_signatures", .arr (signatures.map .str))]) key :=
  Dict.get?_update_of_none _ _ _
    (Dict.get?_filter_of_not context (fun name => !ownMembers.contains name) (by simpa using hkey))

/-- **The floor of the ladder.**  Under the shipped policy a signature of its
escalation list decides, whatever comes after the ladder. -/
theorem rethChoice_escalates {signatures : List Json}
    (hlisted : name ∈ rethPolicy.escalationSignatures) (hshown : .str name ∈ signatures) :
    rethChoice rethPolicy advice restarts signatures =
      ⟨⟨"escalate", 0.74, "high"⟩, "escalated"⟩ := by
  have hunsafe : commonWith signatures rethPolicy.escalationSignatures ≠ [] := by
    refine List.ne_nil_of_mem (List.mem_filter.mpr ⟨hlisted, ?_⟩)
    simpa using hshown
  have hladder : rethLadder rethPolicy restarts
      (commonWith signatures rethPolicy.restartableSignatures)
      (commonWith signatures rethPolicy.escalationSignatures) =
        ⟨⟨"escalate", 0.74, "high"⟩, "escalated"⟩ := by
    unfold rethLadder
    rw [if_pos (by simpa using hunsafe), if_neg (by simp [rethPolicy])]
  unfold rethChoice
  simp only [hladder]
  simp [supportedRestart, hunsafe, promoteIf]

theorem decideRethNode_escalates {trigger : Trigger} {given : List Json} {consensus : Dict}
    (hgiven : pySet (getOr trigger.relatedContext "error_signatures" (.arr [])) = .ok given)
    (hrestarts : recentRestarts reading.toTextReading trigger.relatedContext
      advice.restartsByMesh = .ok restarts)
    (hconsensus : membersOf (getOr trigger.relatedContext "consensus" (.obj [])) = .ok consensus)
    (hlisted : name ∈ rethPolicy.escalationSignatures)
    (hshown : .str name ∈ given ++ (addedSignatures rethPolicy restarts consensus).map .str)
    (h : decideRethNode reading.toTextReading rethPolicy advice trigger = .ok decision) :
    decision.decisionType = "escalate" := by
  rw [decideRethNode, hgiven, ok_bind, hrestarts, ok_bind, hconsensus, ok_bind] at h
  obtain ⟨_, -, h⟩ := bind_ok h
  obtain ⟨_, -, h⟩ := bind_ok h
  obtain ⟨_, -, h⟩ := bind_ok h
  obtain ⟨_, -, h⟩ := bind_ok h
  obtain ⟨_, -, h⟩ := bind_ok h
  obtain ⟨_, -, h⟩ := bind_ok h
  obtain rfl := RemediationDecision.validated_eq h
  simp only [rethChoice_escalates hlisted hshown]

theorem contextCounts_ok (h : contextCounts reading.toTextReading context = .ok counts) :
    ∃ incidents cases rollbacks regressions : Int,
      counts = [("active_incidents", .int incidents), ("similar_prior_cases", .int cases),
        ("rollbacks_last_24h", .int rollbacks), ("regressions_last_7d", .int regressions)] := by
  simp only [contextCounts, countedMembers, List.mapM_cons, List.mapM_nil,
    Except.bind_ok_iff] at h
  obtain ⟨_, ⟨incidents, -, h₁⟩, _, ⟨_, ⟨cases, -, h₂⟩, _, ⟨_, ⟨rollbacks, -, h₃⟩, _,
    ⟨_, ⟨regressions, -, h₄⟩, _, h₅, h₆⟩, h₇⟩, h₈⟩, h₉⟩ := h
  cases h₁
  cases h₂
  cases h₃
  cases h₄
  cases h₅
  cases h₆
  cases h₇
  cases h₈
  cases h₉
  exact ⟨incidents, cases, rollbacks, regressions, rfl⟩

theorem rethPipeline_eq (hvalid : validatePayload rethNodeSignalSchema (.obj raw) = .ok ()) :
    rethPipeline reading store policy advice raw =
      if suppressed (rethContext store raw) then .ok none
      else do
        let signatures ← rethSignatures reading (rethEnvelope store raw).payload
        if signatures.isEmpty then .ok none
        else do
          let counts ← contextCounts reading.toTextReading (rethContext store raw)
          let trigger := rethTrigger (rethEnvelope store raw) counts signatures
          validateTrigger trigger
          return some (← decideRethNode reading.toTextReading policy advice trigger) := by
  rw [rethPipeline, normalizeRethNodeSignal, hvalid, ok_bind]
  show (detectRethNodeTrigger reading (rethEnvelope store raw) >>= fun found =>
    match found with
    | none => pure none
    | some trigger => do
      return some (← decideRethNode reading.toTextReading policy advice trigger)) = _
  unfold detectRethNodeTrigger
  simp only [rethEnvelope_context]
  split
  · rfl
  · cases rethSignatures reading (rethEnvelope store raw).payload with
    | error e => rfl
    | ok signatures =>
      simp only [ok_bind]
      split
      · rfl
      · cases contextCounts reading.toTextReading (rethContext store raw) with
        | error e => rfl
        | ok counts =>
          simp only [ok_bind]
          cases validateTrigger (rethTrigger (rethEnvelope store raw) counts signatures) with
          | error e | ok u => rfl

theorem rethTrigger_context :
    (rethTrigger (rethEnvelope store raw) counts signatures).relatedContext =
      rethTriggerContext counts signatures (rethContext store raw) := by
  rw [rethTrigger, rethEnvelope_context]

theorem rethTrigger_part (hpart : part ∈ rethParts) (default : Json) :
    getOr (rethTrigger (rethEnvelope store raw) counts signatures).relatedContext part default =
      getOr raw part .null := by
  have hkey : part ∉ ownMembers := by
    revert part
    decide
  rw [rethTrigger_context, getOr,
    rethTriggerContext_of_some rethContext_distinct hkey (rethContext_part hpart)]
  rfl

theorem rethTrigger_restarts
    (hcounts : contextCounts reading.toTextReading (rethContext store raw) = .ok counts) :
    recentRestarts reading.toTextReading
        (rethTrigger (rethEnvelope store raw) counts signatures).relatedContext
        advice.restartsByMesh =
      recentRestarts reading.toTextReading (rethContext store raw) advice.restartsByMesh := by
  have hsame : (rethTriggerContext counts signatures (rethContext store raw)).get?
      "systemd_restarts_last_1h" = (rethContext store raw).get? "systemd_restarts_last_1h" := by
    cases hfound : (rethContext store raw).get? "systemd_restarts_last_1h" with
    | some value => exact rethTriggerContext_of_some rethContext_distinct (by decide) hfound
    | none =>
      obtain ⟨_, _, _, _, rfl⟩ := contextCounts_ok hcounts
      rw [rethTriggerContext_of_none hfound]
      simp [Dict.get?_cons]
  rw [recentRestarts, recentRestarts, getOr, getOr, rethTrigger_context, hsame]

theorem addedSignatures_of_hazard
    (hrestarts : recentRestarts reading.toTextReading (rethContext store raw)
      advice.restartsByMesh = .ok restarts)
    (hhazard : guardedHazard reading store rethPolicy advice raw = true) :
    ∃ name ∈ rethPolicy.escalationSignatures,
      name ∈ addedSignatures rethPolicy restarts (objectAt raw "consensus") := by
  simp only [guardedHazard, restartsAtCap, hrestarts, Bool.or_eq_true, decide_eq_true_eq] at hhazard
  rcases hhazard with ((hduty | htwin) | hslashing) | hcap
  · exact ⟨"validator_duty_imminent", by decide, by simp [addedSignatures, hduty]⟩
  · exact ⟨"doppelganger_window_active", by decide, by simp [addedSignatures, htwin]⟩
  · exact ⟨"slashing_db_recently_restored", by decide, by simp [addedSignatures, hslashing]⟩
  · exact ⟨"restart_frequency_exceeded", by decide, by simp [addedSignatures, hcap]⟩

/-- **Hazards that the decision looks at.**  Whatever the client brings, a decision
about a node in such a state is an escalation. -/
theorem guardedHazard_escalates
    (hhazard : guardedHazard reading store rethPolicy advice raw = true)
    (h : rethPipeline reading store rethPolicy advice raw = .ok (some decision)) :
    decision.decisionType = "escalate" := by
  have hvalid : validatePayload rethNodeSignalSchema (.obj raw) = .ok () := by
    obtain ⟨_, henvelope, -⟩ := bind_ok h
    obtain ⟨_, hvalid, -⟩ := bind_ok henvelope
    exact hvalid
  rw [rethPipeline_eq hvalid] at h
  split at h
  · cases h
  · obtain ⟨signatures, -, h⟩ := bind_ok h
    split at h
    · cases h
    · obtain ⟨counts, hcounts, h⟩ := bind_ok h
      obtain ⟨_, -, h⟩ := bind_ok h
      obtain ⟨_, hdecided, h⟩ := bind_ok h
      cases h
      obtain ⟨given, hgiven, hrest⟩ := bind_ok hdecided
      obtain ⟨restarts, hrestarts, hrest⟩ := bind_ok hrest
      obtain ⟨consensus, hconsensus, -⟩ := bind_ok hrest
      have hsame : consensus = objectAt raw "consensus" := by
        rw [rethTrigger_part (by simp [rethParts])] at hconsensus
        unfold getOr at hconsensus
        cases hfound : raw.get? "consensus" with
        | none =>
          rw [hfound] at hconsensus
          cases hconsensus
        | some value =>
          rw [hfound] at hconsensus
          cases value with
          | obj members =>
            cases hconsensus
            simp [objectAt, hfound, Json.asObj?]
          | _ => cases hconsensus
      subst hsame
      obtain ⟨name, hlisted, hadded⟩ :=
        addedSignatures_of_hazard ((rethTrigger_restarts hcounts).symm.trans hrestarts) hhazard
      refine decideRethNode_escalates hgiven hrestarts hconsensus hlisted ?_ hdecided
      exact List.mem_append_right _ (List.mem_map.mpr ⟨name, hadded, rfl⟩)

theorem toDouble_of_ninety {n : Int} (h : 90 ≤ n) {x : Binary64}
    (hx : (Number.int n).toDouble = .ok x) : Binary64.le (.finite 90) x = true := by
  obtain ⟨k, rfl⟩ := Int.eq_ofNat_of_zero_le (show 0 ≤ n by omega)
  unfold Number.toDouble at hx
  simp only at hx
  split at hx
  · cases hx
  · next hfinite =>
    cases hx
    cases hnearest : Binary64.nearest ((k : Int) : ℚ) with
    | infinite s => exact absurd hnearest (hfinite s)
    | nan =>
      unfold Binary64.nearest at hnearest
      simp only at hnearest
      split at hnearest <;> cases hnearest
    | finite y =>
      have hcast : Binary64.nearest (k : ℚ) = .finite y := by exact_mod_cast hnearest
      have hle : ((90 : Nat) : ℚ) ≤ y := Binary64.le_of_nearest_natCast
        (show 90 ≤ k by omega) (by norm_num) (by omega) hcast
      simp only [Binary64.le, decide_eq_true_eq]
      exact_mod_cast hle

theorem atLeast_of_diskPressure {storage : Dict} (h : diskPressure storage = true) {found : Bool}
    (hread : atLeast reading (getOr storage "disk_used_pct" .null) (.finite 90) = .ok found) :
    found = true := by
  unfold diskPressure at h
  generalize getOr storage "disk_used_pct" .null = value at h hread
  cases value with
  | int n =>
    obtain ⟨x, hx, hread⟩ := bind_ok hread
    obtain rfl : Binary64.le (.finite 90) x = found := Except.ok.inj hread
    refine toDouble_of_ninety ?_ hx
    simp only [asNumber?, Option.any_some, Number.exact, Binary64.le, decide_eq_true_eq] at h
    exact_mod_cast h
  | float neg mant exp =>
    obtain ⟨x, hx, hread⟩ := bind_ok hread
    obtain rfl : Binary64.le (.finite 90) x = found := Except.ok.inj hread
    obtain rfl : doubleOf neg mant exp = x := Except.ok.inj hx
    exact h
  | bool b => cases b <;> norm_num [asNumber?, Number.exact, Binary64.le] at h
  | null | str _ | arr _ | obj _ => cases h

theorem mem_sortedTexts {texts : List String} : name ∈ sortedTexts texts ↔ name ∈ texts := by
  simp [sortedTexts]

theorem rethSignatures_of_hazard (hhazard : detectedHazard reading raw = true)
    (h : rethSignatures reading (rethEnvelope store raw).payload = .ok signatures) :
    ∃ name ∈ rethPolicy.escalationSignatures, name ∈ signatures := by
  obtain ⟨diskFull, hdisk, h⟩ := bind_ok h
  obtain ⟨degraded, -, h⟩ := bind_ok h
  have hsorted : sortedTexts (rethSignatureList reading (rethEnvelope store raw).payload diskFull
      degraded) = signatures := Except.ok.inj h
  have hconsensus : objectAt (rethEnvelope store raw).payload "consensus" =
      objectAt raw "consensus" := rethEnvelope_objectAt (by simp [rethParts])
  have hrpc : objectAt (rethEnvelope store raw).payload "rpc" = objectAt raw "rpc" :=
    rethEnvelope_objectAt (by simp [rethParts])
  rw [rethEnvelope_objectAt (by simp [rethParts])] at hdisk
  simp only [← hsorted, mem_sortedTexts, rethSignatureList, hconsensus, hrpc]
  simp only [detectedHazard, Bool.or_eq_true] at hhazard
  rcases hhazard with (((((hengine | hforkchoice) | hmissing) | hmode) | hfull) | hpublic) | hauth
  · exact ⟨"consensus_disconnected", by decide, by
      simp [signatureIf, consensusDisconnected, hengine]⟩
  · exact ⟨"consensus_disconnected", by decide, by
      simp [signatureIf, consensusDisconnected, hforkchoice]⟩
  · exact ⟨"jwt_missing", by decide, by simp [signatureIf, hmissing]⟩
  · exact ⟨"jwt_secret_insecure_permissions", by decide, by simp [signatureIf, hmode]⟩
  · exact ⟨"disk_pressure", by decide, by
      simp [signatureIf, atLeast_of_diskPressure hfull hdisk]⟩
  · exact ⟨"rpc_exposed", by decide, by simp [signatureIf, hpublic]⟩
  · exact ⟨"authrpc_exposed", by decide, by simp [signatureIf, hauth]⟩

/-- `release_id` is a text or nothing. -/
def releaseReadable (context : Dict) : Bool :=
  [JsonType.string, .null].any (matchesType (getOr context "release_id" .null))

/-- With whole counts, and the two that are required, the context passes its schema exactly when
its release is a text or nothing. -/
theorem triggerContext_valid_iff {release : Json} (hdistinct : context.Distinct)
    (hrelease : context.get? "release_id" = some release)
    (hincidents : (context.get? "active_incidents").isSome = true)
    (hcases : (context.get? "similar_prior_cases").isSome = true)
    (hcounts : ∀ key ∈ countedMembers, ∀ value, context.get? key = some value →
      ∃ n : Int, value = .int n) (path : String) :
    validateNode (.obj context) triggerContextSchema path = .ok () ↔
      [JsonType.string, .null].any (matchesType release) = true := by
  constructor
  · intro h
    exact validateNode_type (validateNode_member h rfl hrelease rfl) rfl
  · intro h
    refine validateNode_object_ok rfl rfl ?_ ?_
    · intro field hfield
      simp only [triggerContextSchema, List.mem_cons, List.not_mem_nil, or_false] at hfield
      rcases hfield with rfl | rfl | rfl
      · rw [hrelease]
        rfl
      · exact hincidents
      · exact hcases
    · intro field value member hmem hmember
      have hfound := Dict.get?_of_mem hdistinct hmem
      by_cases hfield : field ∈ countedMembers
      · obtain ⟨n, rfl⟩ := hcounts field hfield value hfound
        have hschema : member = { types := [.integer] } := by
          simp only [countedMembers, List.mem_cons, List.not_mem_nil, or_false] at hfield
          rcases hfield with rfl | rfl | rfl | rfl <;> exact (Option.some.inj hmember).symm
        rw [hschema]
        exact validateNode_types _ rfl rfl rfl
      · by_cases hname : field = "release_id"
        · subst hname
          rw [hrelease] at hfound
          cases hfound
          cases hmember
          exact validateNode_types _ h rfl rfl
        · simp only [countedMembers, List.mem_cons, List.not_mem_nil, or_false, not_or] at hfield
          simp [triggerContextSchema, List.lookup_cons, hfield, hname, beq_false_of_ne] at hmember

theorem rethTriggerContext_distinct
    (hcounts : contextCounts reading.toTextReading context = .ok counts) :
    (rethTriggerContext counts signatures context).Distinct := by
  obtain ⟨_, _, _, _, rfl⟩ := contextCounts_ok hcounts
  refine Dict.Distinct.update ?_ _
  simp [Dict.Distinct]

theorem validateTrigger_iff
    (hcounts : contextCounts reading.toTextReading (rethContext store raw) = .ok counts) :
    validateTrigger (rethTrigger (rethEnvelope store raw) counts signatures) = .ok () ↔
      releaseReadable (rethContext store raw) = true := by
  have hdistinct : (rethTriggerContext counts signatures (rethContext store raw)).Distinct :=
    rethTriggerContext_distinct hcounts
  have hcounted : ∀ key ∈ countedMembers, ∃ n : Int,
      (rethTriggerContext counts signatures (rethContext store raw)).get? key =
        some (.int n) := by
    intro key hkey
    rw [rethTriggerContext_own (List.mem_cons_of_mem _ hkey)]
    obtain ⟨incidents, cases, rollbacks, regressions, rfl⟩ := contextCounts_ok hcounts
    simp only [countedMembers, List.mem_cons, List.not_mem_nil, or_false] at hkey
    rcases hkey with rfl | rfl | rfl | rfl <;> simp [Dict.get?_cons]
  have hthere : ∀ key ∈ countedMembers,
      ((rethTriggerContext counts signatures (rethContext store raw)).get? key).isSome =
        true := by
    intro key hkey
    obtain ⟨n, hn⟩ := hcounted key hkey
    rw [hn]
    rfl
  refine triggerContext_valid_iff hdistinct ?_ (hthere _ (by simp [countedMembers]))
    (hthere _ (by simp [countedMembers])) ?_ _
  · rw [rethTriggerContext_own (by decide)]
    simp [Dict.get?_cons]
  · intro key hkey value hvalue
    obtain ⟨n, hn⟩ := hcounted key hkey
    rw [hn] at hvalue
    exact ⟨n, (Option.some.inj hvalue).symm⟩

theorem part_of_valid (hvalid : validatePayload rethNodeSignalSchema (.obj raw) = .ok ())
    (hpart : part ∈ ["node", "execution", "consensus", "storage"]) :
    membersOf (getOr raw part .null) = .ok (objectAt raw part) := by
  have hrequired : part ∈ rethNodeSignalSchema.required := by
    revert part
    decide
  have hsome := validateNode_required hvalid rfl hrequired
  obtain ⟨value, hfound⟩ := Option.isSome_iff_exists.mp hsome
  have htype : [JsonType.object].any (matchesType value) = true := by
    simp only [List.mem_cons, List.not_mem_nil, or_false] at hpart
    rcases hpart with rfl | rfl | rfl | rfl <;>
      exact validateNode_type (validateNode_member hvalid rfl hfound rfl) rfl
  cases value with
  | obj members => simp [getOr, objectAt, hfound, Json.asObj?, membersOf]
  | _ => simp [matchesType] at htype

theorem executionPlan_escalate (reading : TextReading) (trigger : Trigger) :
    ∃ plan, executionPlan reading trigger "escalate" 0 = .ok plan ∧
      getOr plan "system" .null = .str "incident_service" ∧
      getOr plan "action" .null = .str "open_incident" :=
  ⟨_, rfl, rfl, rfl⟩

theorem validated_escalation (htype : decision.decisionType = "escalate")
    (htier : decision.autonomyTier = "escalated") (hrisk : decision.riskLevel = "high")
    (hsystem : getOr decision.executionPlan "system" .null = .str "incident_service")
    (haction : getOr decision.executionPlan "action" .null = .str "open_incident") :
    decision.validated = .ok decision := by
  unfold RemediationDecision.validated
  rw [htype, htier, hrisk, hsystem, haction]
  rfl

def bringsNoSignatures (raw : Dict) : Bool :=
  ((objectAt raw "related_context").get? "error_signatures").isNone

/-- Then the decision sees those that detection has found. -/
theorem rethTrigger_signatures (hown : bringsNoSignatures raw = true)
    (hcounts : contextCounts reading.toTextReading (rethContext store raw) = .ok counts) :
    pySet (getOr (rethTrigger (rethEnvelope store raw) counts signatures).relatedContext
      "error_signatures" (.arr [])) = .ok (signatures.map .str) := by
  have hnone : (rethContext store raw).get? "error_signatures" = none := by
    have hlearned := enrichFromLearning_agrees (List.Subset.refl enrichedKeys) store
      (((rethContextDefaults raw).update (objectAt raw "related_context")).update
        (rethParts.map fun part => (part, getOr raw part .null)))
      (textAt raw "service") (some "reth.node") "error_signatures" (by decide)
    rw [rethContext, ← hlearned,
      Dict.get?_update_of_none _ _ _ (by simp [rethParts, Dict.get?_cons]),
      Dict.get?_update_of_none _ _ _ (by simpa [bringsNoSignatures] using hown)]
    simp [rethContextDefaults, Dict.get?_cons]
  obtain ⟨incidents, cases, rollbacks, regressions, rfl⟩ := contextCounts_ok hcounts
  rw [rethTrigger_context, getOr, rethTriggerContext_of_none hnone]
  have hhashable : (signatures.map Json.str).find? (fun item =>
      matchesType item .array || matchesType item .object) = none := by
    refine List.find?_eq_none.mpr fun item hitem => ?_
    obtain ⟨text, -, rfl⟩ := List.mem_map.mp hitem
    simp [matchesType]
  simp [Dict.get?_cons, pySet, pyList, hhashable, pure, Except.pure]

/-- The restarts can be read whatever the decisions of the last hour say. -/
theorem recentRestarts_isOk (context : Dict) (restartsByMesh : Int) :
    (recentRestarts reading.toTextReading context restartsByMesh).isOk =
      (recentRestarts reading.toTextReading context 0).isOk := by
  unfold recentRestarts
  cases pyInt reading.toTextReading
    (pyOr (getOr context "systemd_restarts_last_1h" (.int 0)) (.int 0)) <;> rfl

variable (advice) in
theorem decideRethNode_of_hazard
    (hvalid : validatePayload rethNodeSignalSchema (.obj raw) = .ok ())
    (hown : bringsNoSignatures raw = true)
    (hcounts : contextCounts reading.toTextReading (rethContext store raw) = .ok counts)
    (hlisted : name ∈ rethPolicy.escalationSignatures) (hshown : name ∈ signatures) :
    match recentRestarts reading.toTextReading (rethContext store raw) advice.restartsByMesh with
    | .ok _ => ∃ decision, decideRethNode reading.toTextReading rethPolicy advice
        (rethTrigger (rethEnvelope store raw) counts signatures) = .ok decision ∧
          decision.decisionType = "escalate"
    | .error e => decideRethNode reading.toTextReading rethPolicy advice
        (rethTrigger (rethEnvelope store raw) counts signatures) = .error e := by
  rw [decideRethNode, rethTrigger_signatures hown hcounts, ok_bind, rethTrigger_restarts hcounts]
  cases recentRestarts reading.toTextReading (rethContext store raw) advice.restartsByMesh with
  | error e => rfl
  | ok restarts =>
    have hpart : ∀ part ∈ ["node", "execution", "consensus", "storage"], ∀ default,
        membersOf (getOr (rethTrigger (rethEnvelope store raw) counts signatures).relatedContext
          part default) = .ok (objectAt raw part) := by
      intro part hpart default
      rw [rethTrigger_part (by revert part; decide), part_of_valid hvalid hpart]
    simp only [ok_bind, hpart "consensus" (by simp), hpart "node" (by simp),
      hpart "execution" (by simp), hpart "storage" (by simp)]
    have hall : ∀ item ∈ signatures.map Json.str ++
        (addedSignatures rethPolicy restarts (objectAt raw "consensus")).map .str,
        matchesType item .string = true := by
      intro item hitem
      rcases List.mem_append.mp hitem with hmem | hmem <;>
        obtain ⟨text, -, rfl⟩ := List.mem_map.mp hmem <;> rfl
    have hmem : Json.str name ∈ signatures.map Json.str ++
        (addedSignatures rethPolicy restarts (objectAt raw "consensus")).map .str :=
      List.mem_append_left _ (List.mem_map.mpr ⟨name, hshown, rfl⟩)
    have hsortable : requireSortable (signatures.map Json.str ++
        (addedSignatures rethPolicy restarts (objectAt raw "consensus")).map .str) = .ok () := by
      rw [requireSortable, List.all_eq_true.mpr hall]
      rfl
    have hjoined : requireDescribable advice.described (signatures.map Json.str ++
        (addedSignatures rethPolicy restarts (objectAt raw "consensus")).map .str) = .ok () := by
      unfold requireDescribable requireTexts
      split
      · rfl
      · split
        · next item index hfound =>
          have hbad := List.find?_some hfound
          have hin := List.mem_of_find?_eq_some hfound
          simp [hall _ (List.fst_mem_of_mem_zipIdx hin)] at hbad
        · rfl
    rw [hsortable, ok_bind, hjoined, ok_bind]
    simp only [rethChoice_escalates hlisted hmem]
    obtain ⟨plan, hplan, hsystem, haction⟩ := executionPlan_escalate reading.toTextReading
      (rethTrigger (rethEnvelope store raw) counts signatures)
    rw [hplan, ok_bind]
    exact ⟨_, validated_escalation rfl rfl rfl hsystem haction, rfl⟩

def rethReadable (reading : RethReading) (store : LearningStore) (raw : Dict) : Bool :=
  let context := rethContext store raw
  (atLeast reading (getOr (objectAt raw "storage") "disk_used_pct" .null) (.finite 90)).isOk &&
    (rpcDegraded reading (objectAt raw "rpc")).isOk &&
    (contextCounts reading.toTextReading context).isOk && releaseReadable context &&
    (recentRestarts reading.toTextReading context 0).isOk

theorem rethSignatures_isOk :
    (rethSignatures reading (rethEnvelope store raw).payload).isOk =
      ((atLeast reading (getOr (objectAt raw "storage") "disk_used_pct" .null) (.finite 90)).isOk &&
        (rpcDegraded reading (objectAt raw "rpc")).isOk) := by
  rw [rethSignatures, rethEnvelope_objectAt (by simp [rethParts]),
    rethEnvelope_objectAt (by simp [rethParts])]
  cases atLeast reading (getOr (objectAt raw "storage") "disk_used_pct" .null) (.finite 90) with
  | error e => rfl
  | ok diskFull =>
    cases rpcDegraded reading (objectAt raw "rpc") with
    | error e | ok degraded => rfl

/-- **Hazards that detection finds.**  A signal with one, and no signatures of its own, is
suppressed, escalated, or cannot be read. -/
theorem detectedHazard_escalates
    (hvalid : validatePayload rethNodeSignalSchema (.obj raw) = .ok ())
    (hown : bringsNoSignatures raw = true) (hhazard : detectedHazard reading raw = true)
    (hactive : suppressed (rethContext store raw) = false) :
    if rethReadable reading store raw then
      ∃ decision, rethPipeline reading store rethPolicy advice raw = .ok (some decision) ∧
        decision.decisionType = "escalate"
    else ∃ e, rethPipeline reading store rethPolicy advice raw = .error e := by
  have hreadable : rethReadable reading store raw =
      ((rethSignatures reading (rethEnvelope store raw).payload).isOk &&
        (contextCounts reading.toTextReading (rethContext store raw)).isOk &&
        releaseReadable (rethContext store raw) &&
        (recentRestarts reading.toTextReading (rethContext store raw)
          advice.restartsByMesh).isOk) := by
    rw [rethSignatures_isOk, recentRestarts_isOk]
    rfl
  rw [hreadable, rethPipeline_eq hvalid, hactive]
  cases hfound : rethSignatures reading (rethEnvelope store raw).payload with
  | error e => exact ⟨e, rfl⟩
  | ok signatures =>
    obtain ⟨name, hlisted, hshown⟩ := rethSignatures_of_hazard hhazard hfound
    have hnonempty : signatures.isEmpty = false := by
      cases signatures with
      | nil => cases hshown
      | cons first rest => rfl
    simp only [ok_bind, hnonempty, Bool.false_eq_true, if_false]
    cases hcounts : contextCounts reading.toTextReading (rethContext store raw) with
    | error e => exact ⟨e, rfl⟩
    | ok counts =>
      have htrigger : validateTrigger (rethTrigger (rethEnvelope store raw) counts signatures) =
          .ok () ↔ releaseReadable (rethContext store raw) = true := validateTrigger_iff hcounts
      have hdecided := decideRethNode_of_hazard advice hvalid hown hcounts hlisted hshown
      simp only [ok_bind]
      cases hrelease : releaseReadable (rethContext store raw) with
      | false =>
        rw [hrelease] at htrigger
        cases hchecked : validateTrigger
            (rethTrigger (rethEnvelope store raw) counts signatures) with
        | error e => exact ⟨e, rfl⟩
        | ok u => exact absurd (htrigger.mp hchecked) (by decide)
      | true =>
        rw [htrigger.mpr hrelease]
        revert hdecided
        cases recentRestarts reading.toTextReading (rethContext store raw)
            advice.restartsByMesh with
        | error e =>
          intro hdecided
          exact ⟨e, by rw [ok_bind, hdecided]; rfl⟩
        | ok restarts =>
          rintro ⟨decision, hdecision, htype⟩
          exact ⟨decision, by rw [ok_bind, hdecision]; rfl, htype⟩

theorem rethPipeline_none_iff (hvalid : validatePayload rethNodeSignalSchema (.obj raw) = .ok ()) :
    rethPipeline reading store rethPolicy advice raw = .ok none ↔
      suppressed (rethContext store raw) = true ∨
        rethSignatures reading (rethEnvelope store raw).payload = .ok [] := by
  rw [rethPipeline_eq hvalid]
  split
  · next hsuppressed => simp [hsuppressed]
  · next hactive =>
    constructor
    · intro h
      obtain ⟨signatures, hfound, h⟩ := bind_ok h
      split at h
      · next hempty => exact .inr (by rw [hfound, List.isEmpty_iff.mp hempty])
      · obtain ⟨_, -, h⟩ := bind_ok h
        obtain ⟨_, -, h⟩ := bind_ok h
        obtain ⟨_, -, h⟩ := bind_ok h
        cases h
    · rintro (hsuppressed | hnothing)
      · exact absurd hsuppressed hactive
      · rw [hnothing]
        rfl

/-- **Hazards of Reth nodes.**  A hazard that the decision looks at escalates, one that detection
finds is suppressed, escalated or cannot be read, and nothing else triggers. -/
theorem hazards_escalate (reading : RethReading) (store : LearningStore) (advice : RethAdvice)
    (raw : Dict) (hvalid : validatePayload rethNodeSignalSchema (.obj raw) = .ok ()) :
    (guardedHazard reading store rethPolicy advice raw = true →
      ∀ decision, rethPipeline reading store rethPolicy advice raw = .ok (some decision) →
        decision.decisionType = "escalate") ∧
    (bringsNoSignatures raw = true → detectedHazard reading raw = true →
      if suppressed (rethContext store raw) then
        rethPipeline reading store rethPolicy advice raw = .ok none
      else if rethReadable reading store raw then
        ∃ decision, rethPipeline reading store rethPolicy advice raw = .ok (some decision) ∧
          decision.decisionType = "escalate"
      else ∃ e, rethPipeline reading store rethPolicy advice raw = .error e) ∧
    (rethPipeline reading store rethPolicy advice raw = .ok none ↔
      suppressed (rethContext store raw) = true ∨
        rethSignatures reading (rethEnvelope store raw).payload = .ok []) := by
  refine ⟨fun hhazard decision h => guardedHazard_escalates hhazard h, ?_,
    rethPipeline_none_iff hvalid⟩
  intro hown hhazard
  split
  · next hsuppressed => exact (rethPipeline_none_iff hvalid).mpr (.inl hsuppressed)
  · next hactive =>
    exact detectedHazard_escalates hvalid hown hhazard (by simpa using hactive)

def sampleConsensus : Dict :=
  [("engine_api_reachable", .bool true), ("jwt_configured", .bool true),
   ("forkchoice_updates_recent", .bool true), ("consensus_client", .str "lighthouse")]

def sampleNode (consensus : Dict) (diskUsed : Int) : Dict :=
  [("signal_type", .str "reth_node"), ("signal_id", .str "sig_1"),
   ("observed_at", .str "2026-07-12T16:00:00Z"), ("environment", .str "production"),
   ("service", .str "reth-1"),
   ("node", .obj
      [("name", .str "reth-1"), ("deployment_mode", .str "systemd"), ("network", .str "mainnet"),
       ("role", .str "full")]),
   ("execution", .obj
      [("syncing", .bool false), ("head_block", .int 100), ("block_lag", .int 0),
       ("peer_count", .int 10), ("min_peer_count", .int 3), ("max_block_lag", .int 32)]),
   ("consensus", .obj consensus),
   ("storage", .obj [("disk_used_pct", .int diskUsed)]),
   ("rpc", .obj [("http_reachable", .bool true)]),
   ("logs", .obj [("error_signatures", .arr [])]),
   ("resource_attributes", .obj [])]

def plainReading : RethReading := { noReading with octal := fun _ => none }

def noAdvice : RethAdvice where
  restartsByMesh := 0
  topHypothesis := none
  described := false
  evidencePack := none
  observerPromotes := false

theorem hazards_escalate_disk :
    ∃ decision, rethPipeline plainReading none rethPolicy noAdvice (sampleNode sampleConsensus 95) =
      .ok (some decision) ∧ decision.decisionType = "escalate" := by
  have h := (hazards_escalate plainReading none noAdvice (sampleNode sampleConsensus 95)
    (by decide +kernel)).2.1 (by decide +kernel) (by decide +kernel)
  rw [if_neg (by decide +kernel), if_pos (by decide +kernel)] at h
  exact h

def sampleListening : Dict :=
  sampleNode (sampleConsensus.set "doppelganger_protection_active" (.bool true)) 40

/-- Nothing else is the matter: nothing is suppressed, and nothing triggers. -/
theorem doppelganger_unnoticed :
    validatePayload rethNodeSignalSchema (.obj sampleListening) = .ok () ∧
      guardedHazard plainReading none rethPolicy noAdvice sampleListening = true ∧
      suppressed (rethContext none sampleListening) = false ∧
      rethPipeline plainReading none rethPolicy noAdvice sampleListening = .ok none := by
  have hvalid : validatePayload rethNodeSignalSchema (.obj sampleListening) = .ok () := by
    decide +kernel
  have hnothing : rethSignatures plainReading (rethEnvelope none sampleListening).payload =
      .ok [] := by
    decide +kernel
  exact ⟨hvalid, by decide +kernel, by decide +kernel,
    (rethPipeline_none_iff hvalid).mpr (.inr hnothing)⟩

end OrbitalMesh.Signals
